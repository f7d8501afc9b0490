import ApiAccord.Proofs.Decimal.Rounding
import Mathlib

/-!
# The bits of doubles

`parts` takes a double apart so that its bits can be put together again: `eq_ofBits_of_parts` for
finite doubles, `eq_of_parts_infinite` and `eq_of_parts_nan` for the others.
-/

namespace ApiAccord.Decimal

open Float.Model Float.Model.UnpackedFloat

section Components

variable {spec : Format} (s : Sign) (e : BitVec spec.exponentBits)
  (m : BitVec spec.mantissaBitsWithoutImplicit)

theorem unpack_neg : UnpackedFloat.unpack spec (packComponents spec (-s) e m) =
    (UnpackedFloat.unpack spec (packComponents spec s e m)).neg := by
  unfold UnpackedFloat.unpack
  simp only [unpackMantissa_packComponents, unpackExponent_packComponents,
    unpackSign_packComponents, Sign.ofBitVec_toBitVec]
  split_ifs <;> rfl

theorem unpack_pack_unpack (b : BitVec spec.numBits) (hspec : 2 ≤ spec.exponentBits) :
    UnpackedFloat.unpack spec ((UnpackedFloat.unpack spec b).pack spec) =
      UnpackedFloat.unpack spec b := by
  rw [pack_unpack b hspec]
  split
  · next h =>
    simp only [isNaNBits, decide_eq_true_eq] at h
    rw [unpack_packedNaN]
    simp [UnpackedFloat.unpack, h]
  · rfl

theorem toNat_packComponents : (packComponents spec s e m).toNat =
    (s.toBitVec.toNat * 2 ^ spec.exponentBits + e.toNat) * 2 ^ spec.mantissaBitsWithoutImplicit +
      m.toNat := by
  unfold packComponents
  rw [BitVec.toNat_append, BitVec.toNat_append, ← Nat.shiftLeft_add_eq_or_of_lt m.isLt,
    ← Nat.shiftLeft_add_eq_or_of_lt e.isLt, Nat.shiftLeft_eq, Nat.shiftLeft_eq]

end Components

section Double

variable (s : Sign) (e : BitVec Format.binary64.exponentBits)
  (m : BitVec Format.binary64.mantissaBitsWithoutImplicit)

/-- The double of a sign, an exponent and a mantissa. -/
def ofComponents : Float := Float.ofBits (UInt64.ofBitVec (packComponents Format.binary64 s e m))

theorem toNat_packComponents_binary64 : (packComponents Format.binary64 s e m).toNat =
    (s.toBitVec.toNat * 2 ^ 11 + e.toNat) * 2 ^ 52 + m.toNat :=
  toNat_packComponents s e m

theorem neg_ofComponents : -ofComponents s e m = ofComponents (-s) e m := by
  change Float.ofModel (Float.Model.pack (UnpackedFloat.neg (UnpackedFloat.unpack Format.binary64
    ((UnpackedFloat.unpack _ (packComponents Format.binary64 s e m)).pack Format.binary64)))) =
    Float.ofModel (Float.Model.pack (UnpackedFloat.unpack _
      (packComponents Format.binary64 (-s) e m)))
  rw [unpack_pack_unpack _ (by decide), ← unpack_neg]

/-- A double is the one of its components, which are read off its bits. -/
theorem exists_ofComponents (x : Float) : ∃ s e m, x = ofComponents s e m ∧
    x.toBits.toBitVec = packComponents Format.binary64 s e m ∧
    x.toBits.toNat = (s.toBitVec.toNat * 2 ^ 11 + e.toNat) * 2 ^ 52 + m.toNat := by
  have packed := @packComponents_unpackSign_unpackExponent_unpackMantissa
    Format.binary64 x.toBits.toBitVec
  generalize Sign.ofBitVec (unpackSign _) = s at packed
  generalize unpackExponent _ = e at packed
  generalize unpackMantissa _ = m at packed
  refine ⟨s, e, m, ?_, packed.symm, ?_⟩
  · unfold ofComponents
    rw [packed]
    exact (Float.ofBits_toBits x).symm
  · have count := toNat_packComponents_binary64 s e m
    rw [packed] at count
    exact count

variable {e m}

/-- A double without its sign has the bits of one with sign but for the first. -/
theorem ofBits_eq_ofComponents {n : ℕ} (h : n = e.toNat * 2 ^ 52 + m.toNat) :
    Float.ofBits (UInt64.ofNat n) = ofComponents .positive e m := by
  have he : e.toNat < 2 ^ 11 := e.isLt
  have hm : m.toNat < 2 ^ 52 := m.isLt
  have count := toNat_packComponents_binary64 .positive e m
  have zero : Sign.positive.toBitVec.toNat = 0 := rfl
  rw [zero] at count
  have less : n < 2 ^ 64 := by omega
  refine congrArg Float.ofBits (UInt64.toNat_inj.1 ?_)
  rw [UInt64.toNat_ofNat_of_lt' less, h]
  refine Eq.trans ?_ count.symm
  omega

end Double

section Parts

variable {x : Float} {negative : Bool} {b : Binary}

/-- What a finite double is taken apart into has its bits. -/
theorem canonical_of_parts (h : parts x = .finite negative b) :
    b.Canonical ∧ x.toBits.toNat = (if negative then 2 ^ 63 else 0) + b.bits := by
  have less : x.toBits.toNat < 2 ^ 64 := x.toBits.toNat_lt
  unfold parts at h
  simp only [Nat.pow_eq] at h
  generalize x.toBits.toNat = bits at *
  have sign : 2 ^ 63 ≤ bits ↔ (bits / 2 ^ 63 == 1) = true := by
    rw [beq_iff_eq]
    omega
  split at h
  · split at h <;> cases h
  · next finite =>
    simp only [beq_iff_eq] at finite
    split at h
    · next subnormal =>
      cases h
      simp only [beq_iff_eq] at subnormal
      refine ⟨⟨?_, le_rfl, show (-1074 : ℤ) ≤ 971 by decide, .inl rfl⟩, ?_⟩
      · show bits % 2 ^ 52 < 2 ^ 53
        omega
      · simp only [Binary.bits, ← sign]
        split <;> omega
    · next normal =>
      cases h
      simp only [beq_iff_eq] at normal
      refine ⟨⟨?_, ?_, ?_, .inr ?_⟩, ?_⟩
      · show bits % 2 ^ 52 + 2 ^ 52 < 2 ^ 53
        omega
      · show (-1074 : ℤ) ≤ Int.ofNat (bits / 2 ^ 52 % 2048) - 1075
        simp only [Int.ofNat_eq_natCast]
        omega
      · show Int.ofNat (bits / 2 ^ 52 % 2048) - 1075 ≤ 971
        simp only [Int.ofNat_eq_natCast]
        omega
      · exact Nat.le_add_left _ _
      · simp only [Binary.bits, ← sign, Int.ofNat_eq_natCast]
        split <;> omega

/-- A finite double is put together from the bits of its parts. -/
theorem eq_ofBits_of_parts (h : parts x = .finite negative b) :
    (if negative then -Float.ofBits (UInt64.ofNat b.bits) else Float.ofBits (UInt64.ofNat b.bits)) =
      x := by
  obtain ⟨canonical, bits⟩ := canonical_of_parts h
  obtain ⟨s, e, m, hx, -, bits'⟩ := exists_ofComponents x
  have less := canonical.bits_lt
  have he : e.toNat < 2 ^ 11 := e.isLt
  have hm : m.toNat < 2 ^ 52 := m.isLt
  rw [bits] at bits'
  rw [hx]
  cases s with
  | positive =>
    have zero : Sign.positive.toBitVec.toNat = 0 := rfl
    rw [zero] at bits'
    cases negative with
    | true =>
      simp only [if_true] at bits'
      omega
    | false => exact ofBits_eq_ofComponents (by simpa using bits')
  | negative =>
    have one : Sign.negative.toBitVec.toNat = 1 := rfl
    rw [one] at bits'
    cases negative with
    | true =>
      simp only [if_true] at bits' ⊢
      rw [ofBits_eq_ofComponents (by omega : b.bits = e.toNat * 2 ^ 52 + m.toNat),
        neg_ofComponents]
      rfl
    | false =>
      simp only [Bool.false_eq_true, if_false] at bits'
      omega

theorem eq_of_parts_infinite (h : parts x = .infinite negative) :
    (if negative then -1.0 / 0.0 else 1.0 / 0.0) = x := by
  have less : x.toBits.toNat < 2 ^ 64 := x.toBits.toNat_lt
  rw [← Float.ofBits_toBits x, ← UInt64.ofNat_toNat (x := x.toBits)]
  unfold parts at h
  simp only [Nat.pow_eq] at h
  generalize x.toBits.toNat = bits at *
  split at h
  · next infinite =>
    split at h
    · next fraction =>
      cases h
      simp only [beq_iff_eq] at infinite fraction
      split
      · next sign =>
        simp only [beq_iff_eq] at sign
        obtain rfl : bits = 2047 * 2 ^ 52 + 2 ^ 63 := by omega
        decide
      · next sign =>
        simp only [beq_iff_eq] at sign
        obtain rfl : bits = 2047 * 2 ^ 52 := by omega
        decide
    · cases h
  · split at h <;> cases h

theorem eq_of_parts_nan (h : parts x = .nan) : 0.0 / 0.0 = x := by
  obtain ⟨s, e, m, hx, packed, bits⟩ := exists_ofComponents x
  have he : e.toNat < 2 ^ 11 := e.isLt
  have hm : m.toNat < 2 ^ 52 := m.isLt
  unfold parts at h
  simp only [Nat.pow_eq, bits] at h
  split at h
  · next infinite =>
    split at h
    · cases h
    · next fraction =>
      simp only [beq_iff_eq] at infinite fraction
      have exponent : e = -1#_ := BitVec.toNat_inj.1 (show e.toNat = 2047 by omega)
      have mantissa : m ≠ 0#_ := by
        rintro rfl
        exact fraction (by simp)
      -- Of the doubles that are no numbers only one is valid.
      have only := x.toModel.valid.eq_packedNaN
      change _ → _ → x.toBits.toBitVec = _ at only
      rw [show x.toModel.toBits = x.toBits from rfl, packed, unpackExponent_packComponents,
        unpackMantissa_packComponents] at only
      rw [← Float.toBits_inj, ← UInt64.toBitVec_inj, packed, only exponent mantissa]
      decide
  · split at h <;> cases h

end Parts

end ApiAccord.Decimal
