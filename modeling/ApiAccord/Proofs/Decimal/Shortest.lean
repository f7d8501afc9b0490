import ApiAccord.Proofs.Decimal.Rounding

/-!
# Shortest decimals read back

The decimal that `shortest` finds rounds to the double it is found for
(`roundsFrom_shortest`): a point of the last grid does at the latest, for the grid of seventeen
digits is finer than the interval that rounds to the double.  Hence `ofDigits` gives the double
back (`ofDigits_eq`).
-/

namespace ApiAccord.Decimal

section Grid

variable {x : Binary} {p : ℤ} {n : ℕ}

/-- The common factor that makes whole numbers of quarter units and of points of the grid. -/
theorem scale_eq (c : ℕ) (q p : ℤ) :
    ((c * (Nat.pow 2 q.toNat * Nat.pow 10 (-p).toNat) : ℕ) : ℚ) =
      c * 2 ^ q * (2 ^ (-q).toNat * 10 ^ (-p).toNat) := by
  rw [zpow_eq_div 2 q]
  push_cast [Nat.pow_eq]
  field_simp

theorem step_eq (n : ℕ) (q p : ℤ) :
    ((n * (Nat.pow 10 p.toNat * Nat.pow 2 (-q).toNat) : ℕ) : ℚ) =
      n * 10 ^ p * (2 ^ (-q).toNat * 10 ^ (-p).toNat) := by
  rw [zpow_eq_div 10 p]
  push_cast [Nat.pow_eq]
  field_simp

/-- The point of the grid below a number. -/
theorem cast_div_bounds (c : ℕ) (q p : ℤ) :
    let d := c * (Nat.pow 2 q.toNat * Nat.pow 10 (-p).toNat) /
      (Nat.pow 10 p.toNat * Nat.pow 2 (-q).toNat)
    (d : ℚ) * 10 ^ p ≤ c * 2 ^ q ∧ (c : ℚ) * 2 ^ q < d * 10 ^ p + 10 ^ p := by
  intro d
  have factor : (0 : ℚ) < 2 ^ (-q).toNat * 10 ^ (-p).toNat := by positivity
  have below : d * (Nat.pow 10 p.toNat * Nat.pow 2 (-q).toNat) ≤
      c * (Nat.pow 2 q.toNat * Nat.pow 10 (-p).toNat) := Nat.div_mul_le_self _ _
  have above : c * (Nat.pow 2 q.toNat * Nat.pow 10 (-p).toNat) <
      (d + 1) * (Nat.pow 10 p.toNat * Nat.pow 2 (-q).toNat) := by
    rw [mul_comm (d + 1)]
    exact Nat.lt_mul_div_succ _
      (Nat.mul_pos (Nat.pow_pos (by decide)) (Nat.pow_pos (by decide)))
  rw [← Nat.cast_le (α := ℚ), scale_eq, step_eq, mul_le_mul_iff_left₀ factor] at below
  rw [← Nat.cast_lt (α := ℚ), scale_eq, step_eq, mul_lt_mul_iff_left₀ factor, Nat.cast_succ,
    add_one_mul] at above
  exact ⟨below, above⟩

theorem roundsFrom_iff (hm : 0 < x.mantissa) (n : ℕ) (p : ℤ) :
    x.RoundsFrom (n * 10 ^ p) ↔
      let scale := Nat.pow 2 (x.exponent - 2).toNat * Nat.pow 10 (-p).toNat
      let step := Nat.pow 10 p.toNat * Nat.pow 2 (-(x.exponent - 2)).toNat
      (if x.mantissa % 2 == 0 then
        decide ((4 * x.mantissa - gapBelow x) * scale ≤ n * step) &&
          decide (n * step ≤ (4 * x.mantissa + 2) * scale)
      else
        decide ((4 * x.mantissa - gapBelow x) * scale < n * step) &&
          decide (n * step < (4 * x.mantissa + 2) * scale)) = true := by
  have gap : gapBelow x ≤ 4 * x.mantissa := by
    rcases Binary.gapBelow_cases x with ⟨h, -⟩ | ⟨h, -⟩ <;> omega
  have factor : (0 : ℚ) < 2 ^ (-(x.exponent - 2)).toNat * 10 ^ (-p).toNat := by positivity
  simp only [← Nat.cast_le (α := ℚ), ← Nat.cast_lt (α := ℚ), scale_eq, step_eq,
    mul_le_mul_iff_left₀ factor, mul_lt_mul_iff_left₀ factor, Nat.cast_sub gap]
  push_cast
  rcases Nat.mod_two_eq_zero_or_one x.mantissa with h | h
  · simp only [h, beq_self_eq_true, if_true, Bool.and_eq_true, decide_eq_true_eq]
    exact ⟨fun r => ⟨r.low, r.high⟩, fun r => ⟨r.1, r.2, by omega⟩⟩
  · simp [h]
    exact ⟨fun r => r.odd h, fun r => ⟨r.1.le, r.2.le, fun _ => r⟩⟩

/-- A point of a grid that is found rounds to the double. -/
theorem roundsFrom_of_gridPoint? (hm : 0 < x.mantissa) (h : gridPoint? x p = some n) :
    x.RoundsFrom (n * 10 ^ p) := by
  rw [roundsFrom_iff hm]
  unfold gridPoint? at h
  simp only [] at h ⊢
  split at h
  · split_ifs at h <;> cases h <;> assumption
  · cases h; assumption
  · cases h; assumption
  · cases h

/-- Of two numbers with the double between them, one rounds to it if they are closer to each other
than the ends of its interval are. -/
theorem roundsFrom_or {a s : ℚ} (low : a ≤ 4 * x.mantissa * 2 ^ (x.exponent - 2))
    (high : 4 * x.mantissa * 2 ^ (x.exponent - 2) < a + s)
    (fine : s < (gapBelow x + 2) * 2 ^ (x.exponent - 2)) :
    x.RoundsFrom a ∨ x.RoundsFrom (a + s) := by
  have hu : (0 : ℚ) < 2 ^ (x.exponent - 2) := by positivity
  have gap : (0 : ℚ) ≤ gapBelow x * 2 ^ (x.exponent - 2) := by positivity
  by_cases h : (4 * x.mantissa - gapBelow x : ℚ) * 2 ^ (x.exponent - 2) < a
  · have high' : a < (4 * x.mantissa + 2 : ℚ) * 2 ^ (x.exponent - 2) := by linarith
    exact .inl ⟨h.le, high'.le, fun _ => ⟨h, high'⟩⟩
  · have low' : (4 * x.mantissa - gapBelow x : ℚ) * 2 ^ (x.exponent - 2) < a + s := by linarith
    have high' : a + s < (4 * x.mantissa + 2 : ℚ) * 2 ^ (x.exponent - 2) := by linarith
    exact .inr ⟨low'.le, high'.le, fun _ => ⟨low', high'⟩⟩

/-- A grid that is finer than the interval that rounds to the double has a point in it. -/
theorem exists_gridPoint? (hm : 0 < x.mantissa)
    (fine : (10 : ℚ) ^ p < (gapBelow x + 2) * 2 ^ (x.exponent - 2)) :
    ∃ n, gridPoint? x p = some n := by
  obtain ⟨below, above⟩ := cast_div_bounds (4 * x.mantissa) (x.exponent - 2) p
  unfold gridPoint?
  simp only []
  generalize 4 * x.mantissa * (Nat.pow 2 (x.exponent - 2).toNat * Nat.pow 10 (-p).toNat) /
    (Nat.pow 10 p.toNat * Nat.pow 2 (-(x.exponent - 2)).toNat) = d at *
  have hit := roundsFrom_or (mod_cast below) (mod_cast above) fine
  rw [← add_one_mul, ← Nat.cast_succ, roundsFrom_iff hm, roundsFrom_iff hm] at hit
  split
  · split_ifs <;> exact ⟨_, rfl⟩
  · exact ⟨_, rfl⟩
  · exact ⟨_, rfl⟩
  · next h₁ h₂ =>
    rcases hit with hit | hit
    · cases hit.symm.trans h₁
    · cases hit.symm.trans h₂

end Grid

section Shortest

variable {x : Binary}

/-- The last grid at the latest has a hit. -/
theorem roundsFrom_firstHit (hm : 0 < x.mantissa) {e : ℤ} {n k : ℕ}
    (last : ∃ d, gridPoint? x (e - (k + n : ℕ)) = some d) :
    x.RoundsFrom ((firstHit x e n k).digits * 10 ^ (firstHit x e n k).exponent) := by
  induction n generalizing k with
  | zero =>
    obtain ⟨d, hd⟩ := last
    rw [Nat.add_zero] at hd
    simp only [firstHit, hd, Option.getD_some]
    exact roundsFrom_of_gridPoint? hm hd
  | succ n ih =>
    unfold firstHit
    cases h : gridPoint? x (e - k) with
    | some d => exact roundsFrom_of_gridPoint? hm h
    | none =>
      apply ih
      rwa [Nat.add_right_comm]

/-- The shortest decimal rounds to the double. -/
theorem roundsFrom_shortest (hx : x.Canonical) (hm : 0 < x.mantissa) :
    x.RoundsFrom ((shortest x).digits * 10 ^ (shortest x).exponent) := by
  have hm' : (x.mantissa == 0) = false := by simp [hm.ne']
  unfold shortest
  simp only [hm', Bool.false_eq_true, if_false]
  apply roundsFrom_firstHit hm
  apply exists_gridPoint? hm
  have hn : 0 < x.mantissa * Nat.pow 2 x.exponent.toNat := Nat.mul_pos hm (Nat.pow_pos two_pos)
  have hd : 0 < Nat.pow 2 (-x.exponent).toNat := Nat.pow_pos two_pos
  have first := (magnitude_spec counts_digitCount (by decide) hn hd).1
  generalize magnitude digitCount _ _ = e at *
  have value : ((x.mantissa * Nat.pow 2 x.exponent.toNat : ℕ) : ℚ) /
      (Nat.pow 2 (-x.exponent).toNat : ℕ) = 4 * x.mantissa * 2 ^ (x.exponent - 2) := by
    rw [zpow_sub₀ two_ne_zero, zpow_eq_div 2 x.exponent]
    push_cast [Nat.pow_eq]
    ring
  rw [value] at first
  have digits : (4 * x.mantissa : ℚ) < (gapBelow x + 2) * 10 ^ 16 := by
    have := hx.mantissa_lt
    obtain ⟨gap, mantissa, -⟩ | ⟨gap, -⟩ := Binary.gapBelow_cases x
    · rw [gap, mantissa]
      norm_num
    · rw [gap]
      norm_cast
      omega
  calc (10 : ℚ) ^ (e - (1 + 16 : ℕ)) = 10 ^ (e - 1) / 10 ^ 16 := by
        rw [← zpow_natCast, ← zpow_sub₀ (by norm_num)]
        congr 1
        push_cast
        ring
    _ ≤ 4 * x.mantissa * 2 ^ (x.exponent - 2) / 10 ^ 16 := by
        gcongr
        exact mod_cast first
    _ < (gapBelow x + 2) * 10 ^ 16 * 2 ^ (x.exponent - 2) / 10 ^ 16 := by gcongr
    _ = (gapBelow x + 2) * 2 ^ (x.exponent - 2) := by field_simp

/-- The guards of `ofDigits` do not hold of a number that rounds to a positive finite double. -/
theorem point_bounds (hx : x.Canonical) (hm : 0 < x.mantissa) {digits : ℕ} {exponent : ℤ}
    (h : x.RoundsFrom (digits * 10 ^ exponent)) :
    digits ≠ 0 ∧ digitCount digits + exponent ≤ 400 ∧ -400 ≤ digitCount digits + exponent := by
  have least := h.le hx hm
  have most := h.lt hx
  have hd : digits ≠ 0 := by
    rintro rfl
    have : (0 : ℚ) < 2 ^ (-1075 : ℤ) := by positivity
    simp only [Nat.cast_zero, zero_mul] at least
    linarith
  obtain ⟨k, hk, low, high⟩ := counts_digitCount digits (Nat.pos_of_ne_zero hd)
  have ten : (1 : ℚ) < 10 := by norm_num
  have greatest : (2 : ℚ) ^ 1024 ≤ 10 ^ 400 := by
    rw [pow_mul 2 64 16, pow_mul 10 25 16]
    exact pow_le_pow_left₀ (by norm_num) (by norm_num) 16
  have smallest : (2 : ℚ) ^ 1075 ≤ 10 ^ 400 := by
    rw [pow_mul 2 43 25, pow_mul 10 16 25]
    exact pow_le_pow_left₀ (by norm_num) (by norm_num) 25
  have above : (10 : ℚ) ^ (k + exponent) < 10 ^ (400 : ℤ) :=
    calc (10 : ℚ) ^ (k + exponent) = 10 ^ k * 10 ^ exponent := by
          rw [zpow_add₀ (by norm_num), zpow_natCast]
      _ ≤ digits * 10 ^ exponent := by gcongr; exact mod_cast low
      _ < 2 ^ (x.exponent + 53) := most
      _ ≤ 2 ^ (1024 : ℤ) := zpow_le_zpow_right₀ one_le_two (by have := hx.exponent_le; omega)
      _ ≤ 10 ^ (400 : ℤ) := mod_cast greatest
  have below : (10 : ℚ) ^ (-400 : ℤ) < 10 ^ (k + 1 + exponent) :=
    calc (10 : ℚ) ^ (-400 : ℤ) ≤ 2 ^ (-1075 : ℤ) := by
          rw [zpow_neg, zpow_neg]
          exact inv_anti₀ (by positivity) (mod_cast smallest)
      _ ≤ digits * 10 ^ exponent := least
      _ < 10 ^ (k + 1) * 10 ^ exponent := by gcongr; exact mod_cast high
      _ = 10 ^ (k + 1 + exponent) := by
          rw [zpow_add₀ (by norm_num), ← Nat.cast_succ, zpow_natCast]
  rw [zpow_lt_zpow_iff_right₀ ten] at above below
  exact ⟨hd, by omega, by omega⟩

/-- A decimal that rounds to a double is read as this double. -/
theorem ofDigits_eq (hx : x.Canonical) (hm : 0 < x.mantissa) {digits : ℕ} {exponent : ℤ}
    (h : x.RoundsFrom (digits * 10 ^ exponent)) :
    ofDigits digits exponent = Float.ofBits (UInt64.ofNat x.bits) := by
  obtain ⟨hd, most, least⟩ := point_bounds hx hm h
  have quotient : ((digits * Nat.pow 10 exponent.toNat : ℕ) : ℚ) /
      (Nat.pow 10 (-exponent).toNat : ℕ) = digits * 10 ^ exponent := by
    rw [zpow_eq_div]
    push_cast [Nat.pow_eq]
    ring
  unfold ofDigits
  simp only [beq_iff_eq, hd, if_false, most.not_gt, least.not_gt]
  have positive : 0 < Nat.pow 10 (-exponent).toNat := Nat.pow_pos (by decide)
  rw [nearestBits_eq hx hm positive (quotient ▸ h)]

/-- The shortest decimal of a double is read as this double, however it is written. -/
theorem ofDigits_shortest (hx : x.Canonical) {digits : ℕ} {exponent : ℤ}
    (h : (digits : ℚ) * 10 ^ exponent = (shortest x).digits * 10 ^ (shortest x).exponent) :
    ofDigits digits exponent = Float.ofBits (UInt64.ofNat x.bits) := by
  rcases Nat.eq_zero_or_pos x.mantissa with hm | hm
  · have zero : digits = 0 := by
      have positive : (0 : ℚ) < 10 ^ exponent := by positivity
      simpa [shortest, hm, positive.ne'] using h
    have exponent_eq : x.exponent = -1074 := hx.normal.resolve_right (by omega)
    have bits : x.bits = 0 := by simp [Binary.bits, hm, exponent_eq]
    rw [zero, bits]
    exact (show (0 : Float) = Float.ofBits (UInt64.ofNat 0) by decide)
  · exact ofDigits_eq hx hm (h ▸ roundsFrom_shortest hx hm)

end Shortest

end ApiAccord.Decimal
