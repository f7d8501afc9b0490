import ApiAccord.Proofs.Decimal.Rounding
import Mathlib.Data.Rat.Cast.Order
import Mathlib.Order.WithBot

/-!
# The order of doubles

Doubles are compared by their exponents and mantissas.  This is the order of the numbers that they
stand for (`lt_iff_number`, `beq_iff_number`), among which are the two infinities; what is no number
is neither less than another double nor equal to one.
-/

namespace ApiAccord.Decimal

open Float.Model Float.Model.UnpackedFloat

/-! ## Positive doubles -/

namespace Binary

variable {x y : Binary}

/-- The number that a finite double stands for, without its sign. -/
def number (x : Binary) : ℚ := x.mantissa * 2 ^ x.exponent

theorem number_lt_of_exponent_lt (hx : x.Canonical) (hy : y.Canonical)
    (h : x.exponent < y.exponent) : x.number < y.number := by
  have short : (x.mantissa : ℚ) < 2 ^ 53 := mod_cast hx.mantissa_lt
  have long : (2 : ℚ) ^ 52 ≤ y.mantissa := by
    have := hx.le_exponent
    exact mod_cast hy.normal.resolve_left (by omega)
  calc x.number < 2 ^ 53 * 2 ^ x.exponent := mul_lt_mul_of_pos_right short (by positivity)
    _ = 2 ^ 52 * 2 ^ (x.exponent + 1) := by rw [zpow_add_one₀ two_ne_zero]; ring
    _ ≤ 2 ^ 52 * 2 ^ y.exponent :=
        mul_le_mul_of_nonneg_left (zpow_le_zpow_right₀ one_le_two h) (by positivity)
    _ ≤ y.number := mul_le_mul_of_nonneg_right long (by positivity)

theorem number_lt_of_mantissa_lt (he : x.exponent = y.exponent) (h : x.mantissa < y.mantissa) :
    x.number < y.number := by
  have less : (x.mantissa : ℚ) < y.mantissa := mod_cast h
  rw [number, number, he]
  exact mul_lt_mul_of_pos_right less (by positivity)

/-- Numbers are compared by exponent first, and then by mantissa. -/
theorem compare_number (hx : x.Canonical) (hy : y.Canonical) :
    (compare x.exponent y.exponent).then (compare x.mantissa y.mantissa) =
      compare x.number y.number := by
  rcases lt_trichotomy x.exponent y.exponent with he | he | he
  · rw [compare_lt_iff_lt.2 he, compare_lt_iff_lt.2 (number_lt_of_exponent_lt hx hy he)]
    rfl
  · rw [compare_eq_iff_eq.2 he, Ordering.eq_then]
    rcases lt_trichotomy x.mantissa y.mantissa with hm | hm | hm
    · rw [compare_lt_iff_lt.2 hm, compare_lt_iff_lt.2 (number_lt_of_mantissa_lt he hm)]
    · rw [compare_eq_iff_eq.2 hm, compare_eq_iff_eq.2 (by rw [number, number, he, hm])]
    · rw [compare_gt_iff_gt.2 hm, compare_gt_iff_gt.2 (number_lt_of_mantissa_lt he.symm hm)]
  · rw [compare_gt_iff_gt.2 he, compare_gt_iff_gt.2 (number_lt_of_exponent_lt hy hx he)]
    rfl

end Binary

/-! ## Numbers -/

/-- Rational numbers and the two infinities. -/
abbrev Extended := WithBot (WithTop ℚ)

namespace Extended

/-- A rational number among the extended ones. -/
def ofRat (v : ℚ) : Extended := (v : WithTop ℚ)

variable {v w : ℚ}

theorem ofRat_lt_ofRat_iff : ofRat v < ofRat w ↔ v < w := by simp [ofRat]

theorem bot_lt_ofRat (v : ℚ) : ⊥ < ofRat v := by simp [ofRat]

theorem ofRat_lt_top (v : ℚ) : ofRat v < ⊤ :=
  WithBot.coe_lt_coe.2 (WithTop.coe_lt_top v)

end Extended

theorem number_pos {m : ℕ} (e : ℤ) (h : 0 < m) : 0 < Binary.number ⟨m, e⟩ := by
  have pos : (0 : ℚ) < m := mod_cast h
  exact mul_pos pos (by positivity)

/-- Comparisons in the same order have the same outcome. -/
theorem compare_eq_compare {α β : Type} [LinearOrder α] [LinearOrder β] {a a' : α} {b b' : β}
    (lt : a < a' ↔ b < b') (gt : a' < a ↔ b' < b) : compare a a' = compare b b' := by
  rcases lt_trichotomy a a' with h | h | h
  · rw [compare_lt_iff_lt.2 h, compare_lt_iff_lt.2 (lt.1 h)]
  · have same : b = b' := le_antisymm (not_lt.1 fun hb => (gt.2 hb).ne' h)
      (not_lt.1 fun hb => (lt.2 hb).ne h)
    rw [compare_eq_iff_eq.2 h, compare_eq_iff_eq.2 same]
  · rw [compare_gt_iff_gt.2 h, compare_gt_iff_gt.2 (gt.1 h)]

namespace Extended

variable {u v : Extended}

theorem compare_ofRat (v w : ℚ) : compare (ofRat v) (ofRat w) = compare v w :=
  compare_eq_compare ofRat_lt_ofRat_iff ofRat_lt_ofRat_iff

theorem compare_ofRat_neg (v w : ℚ) : compare (ofRat (-v)) (ofRat (-w)) = (compare v w).swap := by
  rw [compare_ofRat, ← Std.OrientedCmp.eq_swap]
  exact compare_eq_compare neg_lt_neg_iff neg_lt_neg_iff

theorem some_lt (h : u < v) : some Ordering.lt = some (compare u v) :=
  congrArg some (compare_lt_iff_lt.2 h).symm

theorem some_gt (h : v < u) : some Ordering.gt = some (compare u v) :=
  congrArg some (compare_gt_iff_gt.2 h).symm

theorem some_eq (u : Extended) : some Ordering.eq = some (compare u u) :=
  congrArg some (compare_eq_iff_eq.2 rfl).symm

end Extended

/-! ## Unpacked doubles -/

/-- A number with a sign. -/
def signed : Sign → ℚ → ℚ
  | .positive, v => v
  | .negative, v => -v

/-- The number that an unpacked double stands for, if it does. -/
def unpackedNumber? : UnpackedFloat → Option Extended
  | .notANumber => none
  | .infinity .positive => some ⊤
  | .infinity .negative => some ⊥
  | .zero _ => some (.ofRat 0)
  | .finite s m e _ => some (.ofRat (signed s (Binary.number ⟨m, e⟩)))

/-- The mantissa of an unpacked double has as many bits as it can. -/
def Canonical : UnpackedFloat → Prop
  | .finite _ m e _ => Binary.Canonical ⟨m, e⟩
  | _ => True

theorem canonical_unpack (b : BitVec Format.binary64.numBits) :
    Canonical (UnpackedFloat.unpack Format.binary64 b) := by
  have bias : Format.binary64.exponentBias = 1023 := rfl
  have bits : Format.binary64.mantissaBitsWithoutImplicit = 52 := rfl
  have hm : (unpackMantissa b).toNat < 2 ^ 52 := (unpackMantissa b).isLt
  have he : (unpackExponent b).toNat < 2048 := (unpackExponent b).isLt
  have normal_toNat : (1#1 ++ unpackMantissa b).toNat = 2 ^ 52 + (unpackMantissa b).toNat := by
    rw [BitVec.toNat_append, ← Nat.shiftLeft_add_eq_or_of_lt (unpackMantissa b).isLt,
      Nat.shiftLeft_eq]
    exact congrArg (· + _) (Nat.one_mul _)
  -- An exponent of ones is no finite double, and one of zeros is a subnormal double or zero.
  delta UnpackedFloat.unpack
  refine iteInduction (motive := Canonical) (fun _ => ?_) fun finite => ?_
  · refine iteInduction (motive := Canonical) (fun _ => trivial) fun _ => trivial
  refine iteInduction (motive := Canonical) (fun subnormal => ?_) fun normal => ?_
  · by_cases empty : unpackMantissa b = 0#_
    · rw [dif_pos empty]
      trivial
    · rw [dif_neg empty]
      have zero : (unpackExponent b).toNat = 0 := by rw [subnormal]; rfl
      refine ⟨?_, ?_, ?_, .inl ?_⟩ <;> dsimp only <;> omega
  · have least : (unpackExponent b).toNat ≠ 0 := fun h => normal (BitVec.toNat_inj.1 h)
    have greatest : (unpackExponent b).toNat ≠ 2047 := fun h => finite (BitVec.toNat_inj.1 h)
    refine ⟨?_, ?_, ?_, .inr ?_⟩ <;> dsimp only <;> omega

open Extended in
/-- The order of unpacked doubles is the order of their numbers. -/
theorem compare_unpacked : ∀ {a b : UnpackedFloat}, Canonical a → Canonical b →
    a.compare b = Option.map₂ compare (unpackedNumber? a) (unpackedNumber? b)
  | .notANumber, b, _, _ => by cases b <;> rfl
  | .infinity s, .notANumber, _, _ => by cases s <;> rfl
  | .zero _, .notANumber, _, _ | .finite .., .notANumber, _, _ => rfl
  | .infinity .positive, .infinity .positive, _, _ => some_eq ⊤
  | .infinity .positive, .infinity .negative, _, _ => some_gt bot_lt_top
  | .infinity .negative, .infinity .positive, _, _ => some_lt bot_lt_top
  | .infinity .negative, .infinity .negative, _, _ => some_eq ⊥
  | .infinity .positive, .zero _, _, _ => some_gt (ofRat_lt_top _)
  | .infinity .positive, .finite .., _, _ => some_gt (ofRat_lt_top _)
  | .infinity .negative, .zero _, _, _ => some_lt (bot_lt_ofRat _)
  | .infinity .negative, .finite .., _, _ => some_lt (bot_lt_ofRat _)
  | .zero _, .infinity .positive, _, _ => some_lt (ofRat_lt_top _)
  | .finite .., .infinity .positive, _, _ => some_lt (ofRat_lt_top _)
  | .zero _, .infinity .negative, _, _ => some_gt (bot_lt_ofRat _)
  | .finite .., .infinity .negative, _, _ => some_gt (bot_lt_ofRat _)
  | .zero _, .zero _, _, _ => some_eq _
  | .zero _, .finite .positive _ e pos, _, _ => some_lt (ofRat_lt_ofRat_iff.2 (number_pos e pos))
  | .zero _, .finite .negative _ e pos, _, _ =>
    some_gt (ofRat_lt_ofRat_iff.2 (neg_neg_of_pos (number_pos e pos)))
  | .finite .positive _ e pos, .zero _, _, _ => some_gt (ofRat_lt_ofRat_iff.2 (number_pos e pos))
  | .finite .negative _ e pos, .zero _, _, _ =>
    some_lt (ofRat_lt_ofRat_iff.2 (neg_neg_of_pos (number_pos e pos)))
  | .finite .positive _ e pos, .finite .negative _ e' pos', _, _ =>
    some_gt (ofRat_lt_ofRat_iff.2
      ((neg_neg_of_pos (number_pos e' pos')).trans (number_pos e pos)))
  | .finite .negative _ e pos, .finite .positive _ e' pos', _, _ =>
    some_lt (ofRat_lt_ofRat_iff.2
      ((neg_neg_of_pos (number_pos e pos)).trans (number_pos e' pos')))
  | .finite .positive .., .finite .positive .., ha, hb =>
    congrArg some ((Binary.compare_number ha hb).trans (compare_ofRat _ _).symm)
  | .finite .negative .., .finite .negative .., ha, hb =>
    congrArg some ((congrArg Ordering.swap (Binary.compare_number ha hb)).trans
      (compare_ofRat_neg _ _).symm)

/-! ## Doubles -/

/-- The number that a double stands for, if it does. -/
def number? (x : Float) : Option Extended := unpackedNumber? x.toModel.unpack

section Order

variable {x y : Float}

theorem compare_number? (x y : Float) :
    x.toModel.unpack.compare y.toModel.unpack = Option.map₂ compare (number? x) (number? y) :=
  compare_unpacked (canonical_unpack _) (canonical_unpack _)

theorem lt_iff_number :
    x < y ↔ ∃ u v, number? x = some u ∧ number? y = some v ∧ u < v := by
  have unfolded : x < y ↔ x.toModel.unpack.compare y.toModel.unpack = some .lt := by
    change decide (x.toModel < y.toModel) = true ↔ _
    rw [decide_eq_true_iff]
    exact beq_iff_eq
  rw [unfolded, compare_number?]
  simp [Option.map₂_eq_some_iff, compare_lt_iff_lt]

theorem beq_iff_number :
    (x == y) = true ↔ ∃ u, number? x = some u ∧ number? y = some u := by
  have unfolded : (x == y) = true ↔ x.toModel.unpack.compare y.toModel.unpack = some .eq := by
    change (x.toModel.unpack.compare y.toModel.unpack == some Ordering.eq) = true ↔ _
    exact beq_iff_eq
  rw [unfolded, compare_number?]
  simp [Option.map₂_eq_some_iff]

end Order

end ApiAccord.Decimal
