import ApiAccord.Proofs.Text
import ApiAccord.Text.LineIndex
import Mathlib.Data.Int.Notation
import Mathlib.Data.Nat.Basic
import Mathlib.Order.Monotone.Defs
import Mathlib.Tactic.Conv

/-!
# Lines are counted by line feeds

The starts of lines ascend, so that bisection finds how many of them lie at an offset or before it
(`bisect_eq_countP`).  There is one for each line feed before the offset, and one for the first
line: `lineOf_ofText`.  So lines ascend with offsets, from the first to the last
(`lineOf_counts_lineFeeds`).
-/

namespace ApiAccord.Text.LineIndex

variable {starts : List ℕ} {offset : ℤ} {lo hi i : ℕ} {text : List Char}

/-! ## Bisection -/

/-- What lies below a bound and what lies above it is counted at the bound. -/
theorem countP_eq_of_split (below : ∀ (j s : ℕ), starts[j]? = some s → j < lo → (s : ℤ) ≤ offset)
    (above : ∀ (j s : ℕ), starts[j]? = some s → lo ≤ j → offset < s) (h : lo ≤ starts.length) :
    starts.countP (fun s : ℕ => (s : ℤ) ≤ offset) = lo := by
  have first : (starts.take lo).countP (fun s : ℕ => (s : ℤ) ≤ offset) = lo := by
    rw [List.countP_eq_length.2, List.length_take, Nat.min_eq_left h]
    intro s hs
    obtain ⟨j, hj⟩ := List.mem_iff_getElem?.1 hs
    rw [List.getElem?_take] at hj
    split at hj
    · next lt => exact decide_eq_true (below j s hj lt)
    · cases hj
  have rest : (starts.drop lo).countP (fun s : ℕ => (s : ℤ) ≤ offset) = 0 := by
    rw [List.countP_eq_zero]
    intro s hs
    obtain ⟨j, hj⟩ := List.mem_iff_getElem?.1 hs
    rw [List.getElem?_drop] at hj
    have := above (lo + j) s hj (Nat.le_add_right lo j)
    simpa using this
  conv_lhs => rw [← List.take_append_drop lo starts, List.countP_append, first, rest]
  rfl

theorem le_of_getElem? {i j s t : ℕ} (ascending : starts.Pairwise (· < ·))
    (hs : starts[i]? = some s) (ht : starts[j]? = some t) (hij : i ≤ j) : s ≤ t := by
  obtain ⟨bi, rfl⟩ := List.getElem?_eq_some_iff.1 hs
  obtain ⟨bj, rfl⟩ := List.getElem?_eq_some_iff.1 ht
  obtain rfl | lt := hij.eq_or_lt
  · exact le_rfl
  · exact (List.pairwise_iff_getElem.1 ascending i j bi bj lt).le

/-- Bisection among ascending numbers counts those up to the offset. -/
theorem bisect_eq_countP (offset : ℤ) (ascending : starts.Pairwise (· < ·)) (hl : lo ≤ hi)
    (hh : hi ≤ starts.length) (below : ∀ (j s : ℕ), starts[j]? = some s → j < lo → (s : ℤ) ≤ offset)
    (above : ∀ (j s : ℕ), starts[j]? = some s → hi ≤ j → offset < s) :
    bisect starts.toArray offset lo hi = starts.countP fun s : ℕ => (s : ℤ) ≤ offset := by
  fun_induction bisect starts.toArray offset lo hi with
  | case1 lo hi lt mid none =>
    rw [List.getElem?_toArray, List.getElem?_eq_none_iff] at none
    omega
  | case2 lo hi lt mid s hs less ih =>
    rw [List.getElem?_toArray] at hs
    apply ih (by omega) (by omega) below
    intro j t ht hj
    have := le_of_getElem? ascending hs ht hj
    omega
  | case3 lo hi lt mid s hs notLess ih =>
    rw [List.getElem?_toArray] at hs
    apply ih (by omega) (by omega) _ above
    intro j t ht hj
    have := le_of_getElem? ascending ht hs (Nat.le_of_lt_succ hj)
    omega
  | case4 lo hi notLess =>
    obtain rfl : lo = hi := by omega
    exact (countP_eq_of_split below above hh).symm

/-! ## The starts of lines -/

theorem lt_of_mem_startsFrom {s : ℕ} (h : s ∈ startsFrom i text) : i < s := by
  induction text generalizing i with
  | nil => cases h
  | cons c rest ih =>
    rw [startsFrom] at h
    split at h
    · rcases List.mem_cons.1 h with rfl | h
      · exact Nat.lt_succ_self i
      · exact Nat.lt_trans (Nat.lt_succ_self i) (ih h)
    · exact Nat.lt_trans (Nat.lt_succ_self i) (ih h)

theorem pairwise_startsFrom (i : ℕ) (text : List Char) : (startsFrom i text).Pairwise (· < ·) := by
  induction text generalizing i with
  | nil => exact .nil
  | cons c rest ih =>
    rw [startsFrom]
    split
    · exact .cons (fun s hs => lt_of_mem_startsFrom hs) (ih (i + 1))
    · exact ih (i + 1)

/-- There is a start after each line feed before the offset. -/
theorem countP_startsFrom (i o : ℕ) (text : List Char) :
    (startsFrom i text).countP (fun s : ℕ => (s : ℤ) ≤ o) = (text.take (o - i)).count '\n' := by
  induction text generalizing i with
  | nil => rw [List.take_nil, startsFrom, List.countP_nil, List.count_nil]
  | cons c rest ih =>
    by_cases before : i < o
    · obtain ⟨n, hn⟩ : ∃ n, o - i = n + 1 := ⟨o - i - 1, by omega⟩
      have next : o - (i + 1) = n := by omega
      have first : decide (((i + 1 : ℕ) : ℤ) ≤ o) = true := decide_eq_true (by omega)
      rw [hn, List.take_succ_cons, List.count_cons, startsFrom, ← next, ← ih (i + 1)]
      split
      · rw [List.countP_cons, if_pos first]
      · rfl
    · have none : (startsFrom i (c :: rest)).countP (fun s : ℕ => (s : ℤ) ≤ o) = 0 := by
        rw [List.countP_eq_zero]
        intro s hs
        have := lt_of_mem_startsFrom hs
        simp only [decide_eq_true_eq]
        omega
      have start : o - i = 0 := by omega
      rw [none, start, List.take_zero, List.count_nil]

/-- The line of an offset is one more than the number of line feeds before it. -/
theorem lineOf_ofText (text : List Char) (o : ℕ) :
    (ofText text).lineOf o = 1 + (text.take o).count '\n' := by
  have ascending : (0 :: startsFrom 0 text).Pairwise (· < ·) :=
    .cons (fun s hs => lt_of_mem_startsFrom hs) (pairwise_startsFrom 0 text)
  have counted := bisect_eq_countP o ascending (Nat.zero_le _) (Nat.le_refl _)
    (fun j s _ hj => absurd hj (Nat.not_lt_zero j)) fun j s hs hj => by
      have := (List.getElem?_eq_some_iff.1 hs).1
      omega
  rw [lineOf, ofText, List.size_toArray, counted, List.countP_cons_of_pos (by simp),
    countP_startsFrom, Nat.sub_zero, Nat.add_comm]

/-- The line feeds between two places separate their lines. -/
theorem lineOf_add (text : List Char) (o d : ℕ) :
    (ofText text).lineOf (o + d : ℕ) =
      (ofText text).lineOf o + ((text.drop o).take d).count '\n' := by
  rw [lineOf_ofText, lineOf_ofText, List.take_add, List.count_append, Nat.add_assoc]

/-- The line of an offset is one more than the number of line feeds before it.  So lines ascend with
offsets: from the first line, on which a text begins, to the last, on which it ends. -/
theorem lineOf_counts_lineFeeds (text : List Char) :
    (∀ o : ℕ, (ofText text).lineOf o = 1 + (text.take o).count '\n') ∧
      Monotone (fun o : ℕ => (ofText text).lineOf o) ∧
      (∀ o : ℕ, 1 ≤ (ofText text).lineOf o ∧
        (ofText text).lineOf o ≤ (Chars.splitOn '\n' text).length) ∧
      (ofText text).lineOf 0 = 1 ∧
      (ofText text).lineOf text.length = (Chars.splitOn '\n' text).length := by
  have first : (ofText text).lineOf (0 : ℕ) = 1 := lineOf_ofText text 0
  have last : (ofText text).lineOf text.length = (Chars.splitOn '\n' text).length := by
    rw [lineOf_ofText, List.take_length, Chars.length_splitOn, Nat.add_comm]
  refine ⟨lineOf_ofText text, fun o o' le => ?_, fun o => ⟨?_, ?_⟩, first, last⟩
  · obtain ⟨d, rfl⟩ := Nat.exists_eq_add_of_le le
    exact (lineOf_add text o d).ge.trans' (Nat.le_add_right _ _)
  · exact lineOf_ofText text o ▸ Nat.le_add_right _ _
  · have before : (text.take o).count '\n' ≤ text.count '\n' :=
      (List.take_sublist o text).count_le _
    rw [lineOf_ofText, Chars.length_splitOn]
    omega

example : (ofText "a\n\nb".toList).lineOf 2 = 2 := by decide +kernel

end ApiAccord.Text.LineIndex
