import ApiAccord.Report
import Mathlib.Algebra.Order.Floor.Ring
import Mathlib.Data.List.Forall2
import Mathlib.Data.Rat.Floor
import Mathlib.Tactic.FieldSimp
import Mathlib.Tactic.Linarith
import Mathlib.Tactic.Positivity
import Mathlib.Tactic.Ring

/-!
# The score of a list of issues

The score is a hundred less what the issues weigh in percent of the number of endpoints, rounded
with halves going up, and cut off at zero (`compatibilityScore_eq_floor`).  It is a function of the
weight and of the number of endpoints alone, and monotone in both
(`compatibilityScore_rounds_monotonically`).
-/

namespace ApiAccord

/-! ## Weight -/

/-- The same issue, or the same as an error. -/
def Raised (i j : Issue) : Prop := j = i ∨ j = { i with severity := .error }

section Weight

variable {issues issues' : List Issue}

theorem totalWeight_eq (issues : List Issue) : totalWeight issues =
    10 * issues.countP (·.severity == .error) + 5 * issues.countP (·.severity == .warning) := by
  induction issues with
  | nil => rfl
  | cons i rest ih =>
    have cons : totalWeight (i :: rest) = i.severity.weight + totalWeight rest := rfl
    rw [cons, ih, List.countP_cons, List.countP_cons]
    cases i.severity <;> simp [Severity.weight] <;> omega

theorem Raised.weight_le {i j : Issue} (h : Raised i j) :
    i.severity.weight ≤ j.severity.weight := by
  obtain rfl | rfl := h
  · exact le_rfl
  · have most (s : Severity) : s.weight ≤ Severity.error.weight := by cases s <;> decide
    exact most i.severity

theorem totalWeight_perm (h : issues.Perm issues') : totalWeight issues' = totalWeight issues := by
  rw [totalWeight_eq, totalWeight_eq, h.countP_eq, h.countP_eq]

theorem totalWeight_mono (h : List.SublistForall₂ Raised issues issues') :
    totalWeight issues ≤ totalWeight issues' := by
  induction h with
  | nil => exact Nat.zero_le _
  | cons hr _ ih => exact Nat.add_le_add hr.weight_le ih
  | cons_right _ ih => exact ih.trans (Nat.le_add_left _ _)

end Weight

/-! ## Rounding -/

theorem roundHalfUp_eq_floor (num : ℤ) {den : ℕ} (h : 0 < den) :
    roundHalfUp num den = ⌊(num / den + 1 / 2 : ℚ)⌋ := by
  have pos : (den : ℚ) ≠ 0 := by exact_mod_cast h.ne'
  have quotient : (num / den + 1 / 2 : ℚ) = ((2 * num + den : ℤ) : ℚ) / ((2 * den : ℕ) : ℚ) := by
    push_cast
    field_simp
  rw [quotient, Rat.floor_intCast_div_natCast, roundHalfUp, Int.fdiv_eq_ediv_of_nonneg]
  · push_cast
    rfl
  · positivity

/-! ## The score -/

section Score

variable (issues : List Issue) (t : ℤ)

theorem compatibilityScore_eq_floor : (compatibilityScore issues t : ℤ) =
    max 0 ⌊(100 - 100 * totalWeight issues / (max t 1 : ℤ) + 1 / 2 : ℚ)⌋ := by
  have pos : (0 : ℤ) < max t 1 := by omega
  obtain ⟨n, hn⟩ := Int.eq_ofNat_of_zero_le pos.le
  have pos' : 0 < n := by omega
  have share : ((100 * n - 100 * totalWeight issues : ℤ) / n : ℚ) =
      100 - 100 * totalWeight issues / n := by
    have : (n : ℚ) ≠ 0 := by exact_mod_cast pos'.ne'
    push_cast
    field_simp
  rw [compatibilityScore, hn]
  simp only [Int.toNat_natCast, Int.ofNat_toNat]
  rw [roundHalfUp_eq_floor _ pos', share, max_comm]
  rfl

/-- What score is reached, without division. -/
theorem le_compatibilityScore_iff {k : ℕ} (hk : 0 < k) : k ≤ compatibilityScore issues t ↔
    200 * (totalWeight issues : ℤ) + 2 * k * max t 1 ≤ 201 * max t 1 := by
  have pos : (0 : ℚ) < (max t 1 : ℤ) := by exact_mod_cast (show (0 : ℤ) < max t 1 by omega)
  have positive : ¬(k : ℤ) ≤ 0 := by omega
  rw [← Int.ofNat_le, compatibilityScore_eq_floor, le_max_iff, or_iff_right positive, Int.le_floor,
    ← sub_nonneg, ← sub_nonneg (b := 200 * _ + _), ← Int.cast_nonneg_iff (R := ℚ)]
  have scaled : ((201 * max t 1 - (200 * totalWeight issues + 2 * k * max t 1) : ℤ) : ℚ) =
      (2 * (max t 1 : ℤ)) *
        (100 - 100 * totalWeight issues / (max t 1 : ℤ) + 1 / 2 - (k : ℤ)) := by
    push_cast at pos ⊢
    field_simp
    ring
  rw [scaled, mul_nonneg_iff_of_pos_left (by positivity)]

variable {issues t} {issues' : List Issue} {t' : ℤ}

theorem compatibilityScore_le_hundred : compatibilityScore issues t ≤ 100 := by
  by_contra h
  have reached := (le_compatibilityScore_iff issues t (by decide)).1 (not_le.1 h)
  push_cast at reached
  omega

theorem compatibilityScore_anti (h : totalWeight issues ≤ totalWeight issues') :
    compatibilityScore issues' t ≤ compatibilityScore issues t := by
  rcases Nat.eq_zero_or_pos (compatibilityScore issues' t) with none | some
  · omega
  · have reached := (le_compatibilityScore_iff issues' t some).1 le_rfl
    rw [le_compatibilityScore_iff _ _ some]
    omega

theorem compatibilityScore_mono (h : t ≤ t') :
    compatibilityScore issues t ≤ compatibilityScore issues t' := by
  rcases Nat.eq_zero_or_pos (compatibilityScore issues t) with none | some
  · omega
  · have most : compatibilityScore issues t ≤ 100 := compatibilityScore_le_hundred
    have reached := (le_compatibilityScore_iff issues t some).1 le_rfl
    rw [le_compatibilityScore_iff _ _ some]
    have : max t 1 ≤ max t' 1 := by omega
    nlinarith

theorem compatibilityScore_eq_hundred_iff :
    compatibilityScore issues t = 100 ↔ 200 * (totalWeight issues : ℤ) ≤ max t 1 := by
  have reached := le_compatibilityScore_iff issues t (k := 100) (by decide)
  rw [le_antisymm_iff, and_iff_right compatibilityScore_le_hundred, reached]
  push_cast
  omega

theorem compatibilityScore_eq_zero_iff :
    compatibilityScore issues t = 0 ↔ 199 * max t 1 < 200 * (totalWeight issues : ℤ) := by
  have reached := le_compatibilityScore_iff issues t (k := 1) Nat.one_pos
  rw [← Nat.lt_one_iff, ← not_le, reached]
  push_cast
  omega

end Score

/-- The score of issues of the weight `w` on `n` endpoints, at least one, is the rounded rest of a
hundred, and not below zero.  The order of the issues does not matter, more or worse issues never
raise the score, and more endpoints never lower it. -/
theorem compatibilityScore_rounds_monotonically (issues : List Issue) (t : ℤ) :
    let w := 10 * issues.countP (·.severity == .error) + 5 * issues.countP (·.severity == .warning)
    let n := max t 1
    (compatibilityScore issues t : ℤ) = max 0 ⌊(100 - 100 * w / n + 1 / 2 : ℚ)⌋ ∧
      compatibilityScore issues t ≤ 100 ∧
      (∀ issues', issues.Perm issues' →
        compatibilityScore issues' t = compatibilityScore issues t) ∧
      (∀ issues', List.SublistForall₂ Raised issues issues' →
        compatibilityScore issues' t ≤ compatibilityScore issues t) ∧
      (∀ t', t ≤ t' → compatibilityScore issues t ≤ compatibilityScore issues t') ∧
      (compatibilityScore issues t = 100 ↔ 200 * (w : ℤ) ≤ n) ∧
      (compatibilityScore issues t = 0 ↔ 199 * n < 200 * (w : ℤ)) := by
  intro w n
  have weight : totalWeight issues = w := totalWeight_eq issues
  rw [← weight]
  refine ⟨compatibilityScore_eq_floor issues t, compatibilityScore_le_hundred, fun _ h => ?_,
    fun _ h => compatibilityScore_anti (totalWeight_mono h), fun _ h => compatibilityScore_mono h,
    compatibilityScore_eq_hundred_iff, compatibilityScore_eq_zero_iff⟩
  have same := totalWeight_perm h
  exact le_antisymm (compatibilityScore_anti same.ge) (compatibilityScore_anti same.le)

/-- A path that is not there, and one that nobody asks for. -/
def missingPath : Issue :=
  ⟨.endpointMissing, .error, "missing", none, none, [], "", some "/a", none⟩

def unusedPath : Issue :=
  ⟨.endpointExtra, .warning, "unused", none, none, [], "", some "/b", none⟩

/-- A half goes up: the issues weigh 15 on 40 endpoints, and 62.5 is left of a hundred.  A further
issue does not raise the score, nor does one that is raised to an error. -/
theorem compatibilityScore_rounds_monotonically_half :
    compatibilityScore [missingPath, unusedPath] 40 = 63 ∧
    compatibilityScore [unusedPath, missingPath] 40 = 63 ∧
    compatibilityScore [unusedPath, missingPath, { unusedPath with severity := .error }] 40 ≤ 63 ∧
    63 ≤ compatibilityScore [missingPath, unusedPath] 41 := by
  obtain ⟨-, -, perm, raise, more, -, -⟩ :=
    compatibilityScore_rounds_monotonically [missingPath, unusedPath] 40
  have score : compatibilityScore [missingPath, unusedPath] 40 = 63 := by decide
  rw [score] at perm raise more
  refine ⟨score, perm _ (.swap _ _ []), raise _ ?_, more _ (by decide)⟩
  exact .cons_right (.cons (.inl rfl) (.cons (.inr rfl) .nil))

end ApiAccord
