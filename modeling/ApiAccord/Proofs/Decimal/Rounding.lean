import ApiAccord.Decimal.Shortest
import Mathlib.Algebra.Order.Field.Power
import Mathlib.Data.Rat.Cast.Order
import Mathlib.Tactic.FieldSimp
import Mathlib.Tactic.Linarith
import Mathlib.Tactic.Positivity
import Mathlib.Tactic.Ring

/-!
# Rounding to doubles

`x.RoundsFrom v` says that the double nearest to the number `v` is `x`: that `v` lies between the
points half way to the neighbours of `x`, and on one of them only if the mantissa is even.
`nearestBits` finds this double (`nearestBits_eq`).
-/

namespace ApiAccord.Decimal

/-! ## Powers -/

theorem zpow_eq_div (b : ℚ) (q : ℤ) : b ^ q = b ^ q.toNat / b ^ (-q).toNat := by
  rcases le_total 0 q with h | h
  · lift q to ℕ using h
    simp
  · obtain ⟨n, rfl⟩ : ∃ n : ℕ, q = -n := ⟨(-q).toNat, by omega⟩
    simp

/-! ## Magnitudes -/

/-- `count` counts digits to the base `b`. -/
def Counts (b : ℕ) (count : ℕ → ℕ) : Prop :=
  ∀ n, 0 < n → ∃ k, count n = k + 1 ∧ b ^ k ≤ n ∧ n < b ^ (k + 1)

section Magnitude

variable {b num den : ℕ} {count : ℕ → ℕ}

theorem counts_bitCount : Counts 2 bitCount :=
  fun n hn => ⟨n.log2, rfl, Nat.log2_self_le hn.ne', Nat.lt_log2_self⟩

theorem counts_digitCount : Counts 10 digitCount := by
  intro n hn
  have pos : 0 < digitCount n := Nat.length_toDigits_pos
  obtain ⟨k, hk⟩ : ∃ k, digitCount n = k + 1 := ⟨digitCount n - 1, by omega⟩
  refine ⟨k, hk, ?_, ?_⟩
  · rcases k.eq_zero_or_pos with rfl | hk0
    · exact hn
    · by_contra h
      have short := (Nat.length_toDigits_le_iff (by decide) hk0).2 (not_le.1 h)
      exact absurd (hk ▸ short : k + 1 ≤ k) (by omega)
  · exact (Nat.length_toDigits_le_iff (by decide) (Nat.succ_pos k)).1 hk.le

/-- The magnitude is the place of the first digit. -/
theorem magnitude_spec (hc : Counts b count) (hb : 1 < b) (hn : 0 < num) (hd : 0 < den) :
    (b : ℚ) ^ (magnitude count num den - 1) ≤ num / den ∧
      (num / den : ℚ) < b ^ magnitude count num den := by
  have hb0 : (0 : ℚ) < b := by positivity
  have hd0 : (0 : ℚ) < den := by positivity
  have hn0 : (0 : ℚ) < num := by positivity
  unfold magnitude
  split
  · next h =>
    obtain ⟨k, hk, low, high⟩ := hc (num / den) (Nat.div_pos h hd)
    rw [Nat.le_div_iff_mul_le hd] at low
    rw [Nat.div_lt_iff_lt_mul hd] at high
    rw [hk, Nat.cast_succ, add_sub_cancel_right, ← Nat.cast_succ, zpow_natCast, zpow_natCast,
      le_div_iff₀ hd0, div_lt_iff₀ hd0]
    exact ⟨mod_cast low, mod_cast high⟩
  · next h =>
    obtain ⟨k, hk, low, high⟩ := hc ((den - 1) / num) (Nat.div_pos (by omega) hn)
    rw [Nat.le_div_iff_mul_le hn] at low
    rw [Nat.div_lt_iff_lt_mul hn] at high
    have low' : b ^ k * num < den := by omega
    have high' : den ≤ b ^ (k + 1) * num := by omega
    have e₁ : (1 : ℤ) - (count ((den - 1) / num) : ℤ) - 1 = -((k + 1 : ℕ) : ℤ) := by
      rw [hk]; omega
    have e₂ : (1 : ℤ) - (count ((den - 1) / num) : ℤ) = -(k : ℤ) := by rw [hk]; omega
    rw [e₁, e₂, zpow_neg, zpow_neg, zpow_natCast, zpow_natCast, inv_le_comm₀ (by positivity)
      (by positivity), lt_inv_comm₀ (by positivity) (by positivity), inv_div, div_le_iff₀ hn0,
      lt_div_iff₀ hn0]
    exact ⟨mod_cast high', mod_cast low'⟩

end Magnitude

/-! ## Quotients -/

/-- A quotient is rounded to `m` if it is within a half of `m`, and closer than that if `m` is
odd. -/
theorem divideEven_eq {a b m : ℕ} (hb : 0 < b) (low : (2 * m - 1 : ℚ) ≤ 2 * (a / b))
    (high : 2 * (a / b) ≤ (2 * m + 1 : ℚ))
    (odd : m % 2 = 1 → (2 * m - 1 : ℚ) < 2 * (a / b) ∧ 2 * (a / b) < (2 * m + 1 : ℚ)) :
    divideEven a b = m := by
  have hb' : (0 : ℚ) < b := mod_cast hb
  rw [← mul_div_assoc, le_div_iff₀ hb', sub_mul, sub_le_iff_le_add] at low
  rw [← mul_div_assoc, div_le_iff₀ hb'] at high
  rw [← mul_div_assoc, lt_div_iff₀ hb', div_lt_iff₀ hb', sub_mul, sub_lt_iff_lt_add] at odd
  norm_cast at low high odd
  have split := Nat.div_add_mod a b
  have less := Nat.mod_lt a hb
  unfold divideEven
  generalize a / b = d at *
  generalize a % b = r at *
  subst split
  -- The quotient is cut off at `m` or at the integer below, and the remainder tells which.
  have least : m ≤ d + 1 := by
    by_contra h
    have : (d + 2) * b ≤ m * b := Nat.mul_le_mul_right b (by omega)
    nlinarith
  have greatest : d ≤ m := by
    by_contra h
    have : (m + 1) * b ≤ d * b := Nat.mul_le_mul_right b (by omega)
    nlinarith
  obtain rfl | rfl : d = m ∨ m = d + 1 := by omega
  · have bound : 2 * r ≤ b := by nlinarith
    have strict : d % 2 = 1 → 2 * r < b := fun h => by nlinarith [(odd h).2]
    rcases Nat.mod_two_eq_zero_or_one d with h | h
    · rcases bound.lt_or_eq with hr | hr <;> simp [h, hr]
    · simp [strict h]
  · have bound : b ≤ 2 * r := by nlinarith
    have strict : d % 2 = 0 → b < 2 * r := fun h => by nlinarith [(odd (by omega)).1]
    rcases Nat.mod_two_eq_zero_or_one d with h | h
    · have := strict h
      simp [this.not_gt, this.ne']
    · simp [bound.not_gt, h]

/-! ## Doubles -/

namespace Binary

/-- The mantissa of a finite double has 53 bits, the first of them set where the exponent is not
the least one. -/
structure Canonical (x : Binary) : Prop where
  mantissa_lt : x.mantissa < 2 ^ 53
  le_exponent : -1074 ≤ x.exponent
  exponent_le : x.exponent ≤ 971
  normal : x.exponent = -1074 ∨ 2 ^ 52 ≤ x.mantissa

/-- The bits of a double without its sign. -/
def bits (x : Binary) : ℕ := (x.exponent + 1074).toNat * 2 ^ 52 + x.mantissa

/-- `x` is the double nearest to `v`, the one with the even mantissa of two. -/
structure RoundsFrom (x : Binary) (v : ℚ) : Prop where
  low : (4 * x.mantissa - gapBelow x : ℚ) * 2 ^ (x.exponent - 2) ≤ v
  high : v ≤ (4 * x.mantissa + 2 : ℚ) * 2 ^ (x.exponent - 2)
  odd : x.mantissa % 2 = 1 → (4 * x.mantissa - gapBelow x : ℚ) * 2 ^ (x.exponent - 2) < v ∧
    v < (4 * x.mantissa + 2 : ℚ) * 2 ^ (x.exponent - 2)

variable {x : Binary} {v : ℚ}

theorem Canonical.bits_lt (hx : x.Canonical) : x.bits < 2047 * 2 ^ 52 := by
  have := hx.mantissa_lt
  have := hx.exponent_le
  unfold bits
  omega

theorem gapBelow_cases (x : Binary) :
    gapBelow x = 1 ∧ x.mantissa = 2 ^ 52 ∧ -1074 < x.exponent ∨
      gapBelow x = 2 ∧ (x.mantissa = 2 ^ 52 → x.exponent ≤ -1074) := by
  unfold gapBelow
  split
  · next h => exact .inl ⟨rfl, by simpa using h⟩
  · next h => exact .inr ⟨rfl, fun hm => by simpa [hm] using h⟩

theorem gapBelow_le (x : Binary) : (gapBelow x : ℚ) ≤ 2 := by
  rcases gapBelow_cases x with ⟨h, -⟩ | ⟨h, -⟩ <;> norm_num [h]

end Binary

open Binary

section Nearest

variable {num den : ℕ} {x : Binary}

/-- A number is rounded to `m` units `2 ^ q` if it is within half a unit of them. -/
theorem divideEven_eq_of_units {q : ℤ} {m : ℕ} {v : ℚ} (hd : 0 < den) (hv : num / den = v)
    (low : (2 * m - 1 : ℚ) * 2 ^ q ≤ 2 * v) (high : 2 * v ≤ (2 * m + 1) * 2 ^ q)
    (odd : m % 2 = 1 → (2 * m - 1 : ℚ) * 2 ^ q < 2 * v ∧ 2 * v < (2 * m + 1) * 2 ^ q) :
    divideEven (num * Nat.pow 2 (-q).toNat) (den * Nat.pow 2 q.toNat) = m := by
  have hu : (0 : ℚ) < 2 ^ q := by positivity
  have units : (((num * Nat.pow 2 (-q).toNat : ℕ) : ℚ) / ((den * Nat.pow 2 q.toNat : ℕ) : ℚ)) =
      v / 2 ^ q := by
    simp only [← hv, Nat.pow_eq, Nat.cast_mul, Nat.cast_pow, Nat.cast_ofNat, zpow_eq_div 2 q]
    field_simp
  refine divideEven_eq (Nat.mul_pos hd (Nat.pow_pos two_pos)) ?_ ?_ fun hm => ?_ <;>
    rw [units, ← mul_div_assoc]
  · rwa [le_div_iff₀ hu]
  · rwa [div_le_iff₀ hu]
  · rw [lt_div_iff₀ hu, div_lt_iff₀ hu]
    exact odd hm

/-- Places of a first digit are ordered as the numbers are. -/
theorem lt_of_zpow_bounds {a b : ℤ} {v : ℚ} (low : 2 ^ a ≤ v) (high : v < 2 ^ b) : a < b :=
  (zpow_lt_zpow_iff_right₀ one_lt_two).1 (low.trans_lt high)

namespace Binary.RoundsFrom

variable {v : ℚ}

theorem le (hx : x.Canonical) (hm : 0 < x.mantissa) (h : x.RoundsFrom v) :
    2 ^ (-1075 : ℤ) ≤ v := by
  have hm' : (1 : ℚ) ≤ x.mantissa := mod_cast hm
  have gap := gapBelow_le x
  have := hx.le_exponent
  calc (2 : ℚ) ^ (-1075 : ℤ) = 2 ^ (1 : ℤ) * 2 ^ (-1076 : ℤ) := by rw [← zpow_add₀ two_ne_zero]; rfl
    _ ≤ (4 * x.mantissa - gapBelow x : ℚ) * 2 ^ (x.exponent - 2) := by
        have mantissa : (2 : ℚ) ^ (1 : ℤ) ≤ 4 * x.mantissa - gapBelow x := by
          rw [zpow_one]
          linarith
        have exponent : (2 : ℚ) ^ (-1076 : ℤ) ≤ 2 ^ (x.exponent - 2) :=
          zpow_le_zpow_right₀ one_le_two (by omega)
        exact mul_le_mul mantissa exponent (by positivity) (by linarith)
    _ ≤ v := h.low

theorem lt (hx : x.Canonical) (h : x.RoundsFrom v) : v < 2 ^ (x.exponent + 53) := by
  have hm : (x.mantissa : ℚ) + 1 ≤ 2 ^ 53 := mod_cast hx.mantissa_lt
  have hu : (0 : ℚ) < 2 ^ (x.exponent - 2) := by positivity
  calc v ≤ (4 * x.mantissa + 2 : ℚ) * 2 ^ (x.exponent - 2) := h.high
    _ < 2 ^ (55 : ℤ) * 2 ^ (x.exponent - 2) := by
        apply mul_lt_mul_of_pos_right _ hu
        norm_num at hm ⊢
        linarith
    _ = 2 ^ (x.exponent + 53) := by
        rw [← zpow_add₀ two_ne_zero]
        congr 1
        ring

/-- What rounds to a double has its exponent, or lies less than a quarter of the unit of the last
place below a power of two. -/
theorem exponent_cases {e : ℤ} (hx : x.Canonical) (h : x.RoundsFrom v)
    (first : 2 ^ (e - 1) ≤ v) (last : v < 2 ^ e) :
    max (-1074) (e - 53) = x.exponent ∨
      max (-1074) (e - 53) = x.exponent - 1 ∧ -1074 < x.exponent ∧ x.mantissa = 2 ^ 52 ∧
        (2 ^ 54 - 1 : ℚ) * 2 ^ (x.exponent - 2) ≤ v ∧ v < 2 ^ 54 * 2 ^ (x.exponent - 2) := by
  have e_le := lt_of_zpow_bounds first (h.lt hx)
  have hle := hx.le_exponent
  by_cases same : e = x.exponent + 53 ∨ x.exponent = -1074
  · exact .inl (by omega)
  right
  have hu : (0 : ℚ) < 2 ^ (x.exponent - 2) := by positivity
  have above : v < 2 ^ 54 * 2 ^ (x.exponent - 2) := by
    refine last.trans_le ?_
    rw [← zpow_natCast, ← zpow_add₀ two_ne_zero]
    exact zpow_le_zpow_right₀ one_le_two (by push_cast; omega)
  have quarters : (4 * x.mantissa - gapBelow x : ℚ) < 2 ^ 54 :=
    lt_of_mul_lt_mul_right (h.low.trans_lt above) hu.le
  have least : 2 ^ 52 ≤ x.mantissa := hx.normal.resolve_left (by omega)
  obtain ⟨gap, mantissa, -⟩ | ⟨gap, exponent_le⟩ := gapBelow_cases x
  · have low := h.low
    rw [gap, mantissa] at low
    have low' : (2 ^ 54 - 1 : ℚ) * 2 ^ (x.exponent - 2) ≤ v := by
      convert low using 2
      norm_num
    have reaches : (2 : ℚ) ^ (x.exponent + 51) ≤ (2 ^ 54 - 1) * 2 ^ (x.exponent - 2) := by
      rw [show x.exponent + 51 = 53 + (x.exponent - 2) by ring, zpow_add₀ two_ne_zero]
      gcongr
      norm_num
    have := lt_of_zpow_bounds (reaches.trans low') last
    exact ⟨by omega, by omega, mantissa, low', above⟩
  · have greater : 2 ^ 52 + 1 ≤ x.mantissa := by
      have : x.mantissa ≠ 2 ^ 52 := fun h => by have := exponent_le h; omega
      omega
    have greater' : (2 ^ 52 + 1 : ℚ) ≤ x.mantissa := mod_cast greater
    rw [gap] at quarters
    push_cast at quarters
    linarith only [quarters, greater']

end Binary.RoundsFrom

/-- The double nearest to a number is found. -/
theorem nearestBits_eq (hx : x.Canonical) (hm : 0 < x.mantissa) (hd : 0 < den)
    (h : x.RoundsFrom (num / den)) : nearestBits num den = x.bits := by
  have hn : 0 < num := by
    have : (0 : ℚ) < num / den := (zpow_pos two_pos _).trans_le (h.le hx hm)
    rw [div_pos_iff_of_pos_right (mod_cast hd)] at this
    exact mod_cast this
  obtain ⟨first, last⟩ := magnitude_spec counts_bitCount one_lt_two hn hd
  have max_bits := hx.bits_lt
  unfold nearestBits
  simp only []
  generalize magnitude bitCount num den = e at *
  generalize hv : (num / den : ℚ) = v at *
  have h₁ : (2 : ℚ) ^ (x.exponent - 1) = 2 * 2 ^ (x.exponent - 2) := by
    rw [← zpow_one_add₀ two_ne_zero]; congr 1; ring
  obtain hq | ⟨hq, normal, mantissa, low, high⟩ :=
    h.exponent_cases hx (mod_cast first) (mod_cast last)
  · obtain ⟨low, high, odd⟩ := h
    have h₀ : (2 : ℚ) ^ x.exponent = 2 * 2 ^ (x.exponent - 1) := by
      rw [← zpow_one_add₀ two_ne_zero]; congr 1; ring
    have wider : (4 * x.mantissa - 2 : ℚ) * 2 ^ (x.exponent - 2) ≤
        (4 * x.mantissa - gapBelow x : ℚ) * 2 ^ (x.exponent - 2) := by
      have := gapBelow_le x
      gcongr
    have quotient := divideEven_eq_of_units (m := x.mantissa) (q := x.exponent) hd hv
      (by rw [h₀, h₁]; linarith) (by rw [h₀, h₁]; linarith) fun hm => by
        have := odd hm
        rw [h₀, h₁]
        constructor <;> linarith
    rw [hq, quotient]
    exact min_eq_left max_bits.le
  · have quotient := divideEven_eq_of_units (m := 2 ^ 53) (q := x.exponent - 1) hd hv
      (by rw [h₁]; push_cast; linarith) (by rw [h₁]; push_cast; linarith) (by omega)
    have carry : x.bits = (x.exponent - 1 + 1074).toNat * 2 ^ 52 + 2 ^ 53 := by
      unfold bits
      omega
    rw [hq, quotient]
    exact (min_eq_left (carry ▸ max_bits.le)).trans carry.symm

end Nearest

end ApiAccord.Decimal
