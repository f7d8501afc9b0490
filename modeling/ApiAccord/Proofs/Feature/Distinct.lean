import ApiAccord.Feature.Matching

/-!
# Findings that differ in a key

`Matching.dedupBy` keeps the first of several findings with the same key.  Of the keys seen before
only which ones they are matters (`dedupBy_congr`), and findings that come later are kept or not by
the keys of all earlier ones (`dedupBy_append`).
-/

namespace ApiAccord.Matching

variable {α κ : Type} [BEq κ] [LawfulBEq κ] {key : α → κ} {seen seen' : List κ} {xs ys : List α}
  {x : α}

theorem dedupBy_cons_of_mem (h : key x ∈ seen) :
    dedupBy key seen (x :: xs) = dedupBy key seen xs := by
  rw [dedupBy, if_pos (List.contains_iff_mem.2 h)]

theorem dedupBy_cons_of_notMem (h : key x ∉ seen) :
    dedupBy key seen (x :: xs) = x :: dedupBy key (key x :: seen) xs := by
  rw [dedupBy, if_neg (mt List.contains_iff_mem.1 h)]

theorem dedupBy_sublist (key : α → κ) (seen : List κ) (xs : List α) :
    (dedupBy key seen xs).Sublist xs := by
  induction xs generalizing seen with
  | nil => exact .slnil
  | cons x rest ih =>
    by_cases h : key x ∈ seen
    · rw [dedupBy_cons_of_mem h]
      exact (ih seen).cons x
    · rw [dedupBy_cons_of_notMem h]
      exact (ih (key x :: seen)).cons_cons x

theorem key_notMem_of_mem_dedupBy (h : x ∈ dedupBy key seen xs) : key x ∉ seen := by
  induction xs generalizing seen with
  | nil => cases h
  | cons y rest ih =>
    by_cases hy : key y ∈ seen
    · rw [dedupBy_cons_of_mem hy] at h
      exact ih h
    · rw [dedupBy_cons_of_notMem hy] at h
      rcases List.mem_cons.1 h with rfl | h
      · exact hy
      · exact fun hx => ih h (List.mem_cons_of_mem _ hx)

/-- No two findings that are kept have the same key. -/
theorem pairwise_key_dedupBy (key : α → κ) (seen : List κ) (xs : List α) :
    (dedupBy key seen xs).Pairwise fun x y => key x ≠ key y := by
  induction xs generalizing seen with
  | nil => exact .nil
  | cons x rest ih =>
    by_cases h : key x ∈ seen
    · rw [dedupBy_cons_of_mem h]
      exact ih seen
    · rw [dedupBy_cons_of_notMem h]
      refine .cons (fun y hy same => ?_) (ih (key x :: seen))
      exact key_notMem_of_mem_dedupBy hy (same ▸ List.mem_cons_self)

/-- What is kept depends on which of the keys were seen. -/
theorem dedupBy_congr (h : ∀ x ∈ xs, key x ∈ seen ↔ key x ∈ seen') :
    dedupBy key seen xs = dedupBy key seen' xs := by
  induction xs generalizing seen seen' with
  | nil => rfl
  | cons x rest ih =>
    have first := h x List.mem_cons_self
    have others : ∀ y ∈ rest, key y ∈ seen ↔ key y ∈ seen' :=
      fun y hy => h y (List.mem_cons_of_mem _ hy)
    by_cases hx : key x ∈ seen
    · rw [dedupBy_cons_of_mem hx, dedupBy_cons_of_mem (first.1 hx), ih others]
    · rw [dedupBy_cons_of_notMem hx, dedupBy_cons_of_notMem (mt first.2 hx)]
      congr 1
      apply ih
      intro y hy
      rw [List.mem_cons, List.mem_cons, others y hy]

theorem dedupBy_append (key : α → κ) (seen : List κ) (xs ys : List α) :
    dedupBy key seen (xs ++ ys) =
      dedupBy key seen xs ++ dedupBy key (xs.map key ++ seen) ys := by
  induction xs generalizing seen with
  | nil => rfl
  | cons x rest ih =>
    rw [List.cons_append]
    by_cases h : key x ∈ seen
    · rw [dedupBy_cons_of_mem h, dedupBy_cons_of_mem h, ih]
      congr 1
      apply dedupBy_congr
      intro y _
      simp only [List.map_cons, List.cons_append, List.mem_cons, List.mem_append]
      exact ⟨.inr, fun hy => hy.elim (fun same => .inr (same ▸ h)) id⟩
    · rw [dedupBy_cons_of_notMem h, dedupBy_cons_of_notMem h, ih, List.cons_append]
      congr 2
      apply dedupBy_congr
      intro y _
      simp only [List.map_cons, List.cons_append, List.mem_cons, List.mem_append]
      exact or_left_comm

/-- Of findings with different keys, those are kept whose keys were not seen. -/
theorem dedupBy_eq_filter (h : xs.Pairwise fun x y => key x ≠ key y) :
    dedupBy key seen xs = xs.filter fun x => !seen.contains (key x) := by
  induction xs generalizing seen with
  | nil => rfl
  | cons x rest ih =>
    obtain ⟨apart, later⟩ := List.pairwise_cons.1 h
    by_cases hx : key x ∈ seen
    · rw [dedupBy_cons_of_mem hx, ih later, List.filter_cons_of_neg (by simpa using hx)]
    · rw [dedupBy_cons_of_notMem hx, ih later, List.filter_cons_of_pos (by simpa using hx)]
      congr 1
      apply List.filter_congr
      intro y hy
      have : (key y == key x) = false := beq_false_of_ne (apart y hy).symm
      rw [List.contains_cons, this, Bool.false_or]

/-- Where each of two lists has different keys, and the findings after them have none of the second,
those are left out of the second whose keys are in the first, and the others as if there were no
second list. -/
theorem dedupBy_append_append {zs : List α} (hx : xs.Pairwise fun x y => key x ≠ key y)
    (hy : ys.Pairwise fun x y => key x ≠ key y) (hz : ∀ z ∈ zs, key z ∉ ys.map key) :
    dedupBy key [] (xs ++ ys ++ zs) =
      xs ++ ys.filter (fun y => !(xs.map key).contains (key y)) ++
        dedupBy key (xs.map key) zs := by
  have first : dedupBy key [] xs = xs := by
    rw [dedupBy_eq_filter hx, List.filter_eq_self]
    exact fun _ _ => rfl
  have later : dedupBy key ((xs ++ ys).map key) zs = dedupBy key (xs.map key) zs := by
    apply dedupBy_congr
    intro z mem
    rw [List.map_append, List.mem_append]
    exact or_iff_left (hz z mem)
  rw [dedupBy_append, List.append_nil, later, dedupBy_append, List.append_nil, first,
    dedupBy_eq_filter hy]

end ApiAccord.Matching
