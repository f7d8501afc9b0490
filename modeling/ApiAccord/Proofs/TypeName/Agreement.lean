import ApiAccord.TypeName
import Mathlib.Data.List.Basic

/-!
# Types that agree

A spelling stands for one or more kinds of primitive types, or for none (`kinds`).  Two types agree
if one of them is of no kind, or if they have a kind in common (`agree_eq_kinds`).  So agreeing does
not depend on the order, and types agree with the same types just if they are of the same kinds
(`agree_right_iff`).
-/

namespace ApiAccord.TypeName

variable {a b s : String}

/-- The kinds of primitive types that a spelling stands for, each with all of its spellings. -/
def kinds (name : String) : List (List String) := spellings.filter (·.contains name)

theorem agree_comm (a b : String) : agree a b = agree b a := by
  have same : (a == b) = (b == a) := BEq.comm
  have shared : (spellings.any fun s => s.contains a && s.contains b) =
      spellings.any fun s => s.contains b && s.contains a := by
    simp only [Bool.and_comm]
  rw [agree, agree, same, shared]
  ac_rfl

theorem compatible_comm (a b : String) : compatible a b = compatible b a := agree_comm ..

theorem isPrimitive_eq_false_iff : isPrimitive a = false ↔ kinds a = [] := by
  simp [isPrimitive, kinds]

theorem mem_of_isPrimitive (h : isPrimitive a = true) : a ∈ spellings.flatten := by
  obtain ⟨s, hs, ha⟩ := List.any_eq_true.1 h
  exact List.mem_flatten.2 ⟨s, hs, List.contains_iff_mem.1 ha⟩

theorem opaque_eq_false (h : isPrimitive a = true) : opaqueTypes.contains a = false := by
  have none : ∀ name ∈ spellings.flatten, opaqueTypes.contains name = false := by decide
  exact none a (mem_of_isPrimitive h)

theorem agree_of_not_isPrimitive (h : isPrimitive a = false) (b : String) : agree a b = true := by
  rw [agree, h]
  simp

/-- Types agree unless both are of some kind, and of no kind in common. -/
theorem agree_eq_kinds (a b : String) :
    agree a b = ((kinds a).isEmpty || (kinds b).isEmpty || (kinds a).any (·.contains b)) := by
  cases ha : isPrimitive a with
  | false =>
    rw [agree_of_not_isPrimitive ha, isPrimitive_eq_false_iff.1 ha]
    rfl
  | true =>
    cases hb : isPrimitive b with
    | false =>
      rw [agree_comm, agree_of_not_isPrimitive hb, isPrimitive_eq_false_iff.1 hb]
      simp
    | true =>
      have common : (kinds a).any (·.contains b) =
          spellings.any fun s => s.contains a && s.contains b := List.any_filter
      have same (h : (a == b) = true) : (spellings.any fun s => s.contains a && s.contains b) =
          true := by
        simp only [← beq_iff_eq.1 h, Bool.and_self]
        exact ha
      rw [agree, ha, hb, opaque_eq_false ha, opaque_eq_false hb, common]
      rw [← Bool.not_eq_false, isPrimitive_eq_false_iff, ← List.isEmpty_iff, Bool.not_eq_true]
        at ha hb
      rw [ha, hb]
      cases hab : a == b with
      | false => rfl
      | true =>
        rw [same hab]
        rfl

/-- Common spellings of types of each kind. -/
def samples : List String := ["int", "float", "str", "bool", "list"]

theorem normalize_samples : samples.map normalize = samples := by decide +kernel

/-- Types are of the same kinds just if they agree with the same types. -/
theorem agree_right_iff :
    (∀ u, agree a (normalize u) = agree b (normalize u)) ↔ kinds a = kinds b := by
  constructor
  · intro h
    have alike : ∀ s ∈ samples, agree a s = agree b s := by
      intro s hs
      obtain ⟨u, -, rfl⟩ := List.mem_map.1 (normalize_samples.symm ▸ hs)
      exact h u
    -- Each primitive type disagrees with a sample, and the samples tell its kinds.
    have differs : ∀ name ∈ spellings.flatten, ∃ s ∈ samples, agree name s = false := by
      decide +kernel
    have tells : ∀ name ∈ spellings.flatten, ∀ name' ∈ spellings.flatten,
        (∀ s ∈ samples, agree name s = agree name' s) → kinds name = kinds name' := by
      decide +kernel
    cases ha : isPrimitive a with
    | false =>
      cases hb : isPrimitive b with
      | false => rw [isPrimitive_eq_false_iff.1 ha, isPrimitive_eq_false_iff.1 hb]
      | true =>
        obtain ⟨s, hs, no⟩ := differs b (mem_of_isPrimitive hb)
        rw [← alike s hs, agree_of_not_isPrimitive ha] at no
        cases no
    | true =>
      cases hb : isPrimitive b with
      | false =>
        obtain ⟨s, hs, no⟩ := differs a (mem_of_isPrimitive ha)
        rw [alike s hs, agree_of_not_isPrimitive hb] at no
        cases no
      | true => exact tells a (mem_of_isPrimitive ha) b (mem_of_isPrimitive hb) alike
  · intro h u
    rw [agree_eq_kinds, agree_eq_kinds, h]

end ApiAccord.TypeName
