import ApiAccord.Similarity
import Mathlib.Algebra.Order.Group.Abs
import Mathlib.Algebra.Order.Group.Int
import Mathlib.Order.Bounds.Basic

/-!
# The table of distances counts edits

`Edits n a b` says that `n` edits of single characters lead from `a` to `b`.  `editDistance`, which
keeps one row of the table of distances of prefixes, finds the least such `n`
(`isLeast_editDistance`), and so has the laws of a distance.

`fewest` is the recursion behind the table.  It takes characters off the front of both texts, so an
entry of the table is the distance of two prefixes that are written backwards (`row`).
-/

namespace ApiAccord.EditDistance

/-! ## Edits -/

/-- One character is put in, left out, or replaced. -/
inductive Edit : List Char → List Char → Prop where
  | insert (u : List Char) (c : Char) (v : List Char) : Edit (u ++ v) (u ++ c :: v)
  | delete (u : List Char) (c : Char) (v : List Char) : Edit (u ++ c :: v) (u ++ v)
  | replace (u : List Char) (c d : Char) (v : List Char) : Edit (u ++ c :: v) (u ++ d :: v)

/-- So many edits, one after the other, lead from one text to another. -/
inductive Edits : ℕ → List Char → List Char → Prop where
  | none (a : List Char) : Edits 0 a a
  | step {n : ℕ} {a b c : List Char} : Edit a b → Edits n b c → Edits (n + 1) a c

section Edits

variable {a b c : List Char} {m n : ℕ}

theorem Edit.symm (h : Edit a b) : Edit b a := by
  cases h with
  | insert u c v => exact .delete u c v
  | delete u c v => exact .insert u c v
  | replace u c d v => exact .replace u d c v

theorem Edit.cons (e : Char) (h : Edit a b) : Edit (e :: a) (e :: b) := by
  cases h with
  | insert u c v => exact .insert (e :: u) c v
  | delete u c v => exact .delete (e :: u) c v
  | replace u c d v => exact .replace (e :: u) c d v

theorem Edit.reverse (h : Edit a b) : Edit a.reverse b.reverse := by
  cases h with
  | insert u c v => simpa using Edit.insert v.reverse c u.reverse
  | delete u c v => simpa using Edit.delete v.reverse c u.reverse
  | replace u c d v => simpa using Edit.replace v.reverse c d u.reverse

theorem Edit.length_le (h : Edit a b) : a.length ≤ b.length + 1 := by
  cases h <;> simp <;> omega

theorem edits_zero_iff : Edits 0 a b ↔ a = b := by
  constructor
  · rintro ⟨⟩
    rfl
  · rintro rfl
    exact .none a

theorem Edits.trans (h : Edits m a b) (h' : Edits n b c) : Edits (m + n) a c := by
  induction h with
  | none => rwa [Nat.zero_add]
  | @step m a d b hd _ ih =>
    rw [Nat.add_right_comm]
    exact .step hd (ih h')

theorem Edits.symm (h : Edits n a b) : Edits n b a := by
  induction h with
  | none a => exact .none a
  | step hd _ ih => exact ih.trans (.step hd.symm (.none _))

theorem Edits.cons (e : Char) (h : Edits n a b) : Edits n (e :: a) (e :: b) := by
  induction h with
  | none a => exact .none (e :: a)
  | step hd _ ih => exact .step (hd.cons e) ih

theorem Edits.reverse (h : Edits n a b) : Edits n a.reverse b.reverse := by
  induction h with
  | none a => exact .none a.reverse
  | step hd _ ih => exact .step hd.reverse ih

theorem edits_reverse_iff : Edits n a.reverse b.reverse ↔ Edits n a b :=
  ⟨fun h => by simpa using h.reverse, .reverse⟩

theorem Edits.length_le (h : Edits n a b) : a.length ≤ b.length + n := by
  induction h with
  | none => exact Nat.le_refl _
  | step hd _ ih =>
    have first := hd.length_le
    omega

end Edits

/-! ## The recursion -/

/-- The least number of edits, by what becomes of the first characters. -/
def fewest : List Char → List Char → ℕ
  | [], b => b.length
  | a, [] => a.length
  | c :: a, d :: b =>
    min (min (fewest a (d :: b) + 1) (fewest (c :: a) b + 1))
      (fewest a b + if c == d then 0 else 1)
termination_by a b => a.length + b.length

section Distance

variable {a b : List Char} {n : ℕ}

@[simp] theorem fewest_nil_left (b : List Char) : fewest [] b = b.length := by
  rw [fewest]

@[simp] theorem fewest_nil_right (a : List Char) : fewest a [] = a.length := by
  cases a <;> simp [fewest]

theorem fewest_cons_cons (c d : Char) (a b : List Char) : fewest (c :: a) (d :: b) =
    min (min (fewest a (d :: b) + 1) (fewest (c :: a) b + 1))
      (fewest a b + if c == d then 0 else 1) := by
  rw [fewest]

theorem fewest_self (a : List Char) : fewest a a = 0 := by
  induction a with
  | nil => rw [fewest_nil_left, List.length_nil]
  | cons c a ih => simp [fewest_cons_cons, ih]

theorem fewest_le_max (a b : List Char) : fewest a b ≤ max a.length b.length := by
  fun_induction fewest a b with
  | case1 b => exact Nat.le_max_right _ _
  | case2 a => exact Nat.le_max_left _ _
  | case3 c a d b _ _ ih =>
    simp only [List.length_cons]
    split <;> omega

/-! ### So many edits are enough -/

theorem edits_length_nil (a : List Char) : Edits a.length a [] := by
  induction a with
  | nil => exact .none []
  | cons c a ih => exact .step (.delete [] c a) ih

theorem edits_fewest (a b : List Char) : Edits (fewest a b) a b := by
  fun_induction fewest a b with
  | case1 b => exact (edits_length_nil b).symm
  | case2 a => exact edits_length_nil a
  | case3 c a d b delete insert replace =>
    -- The least of three numbers is one of them.
    rcases min_choice (min (fewest a (d :: b) + 1) (fewest (c :: a) b + 1))
      (fewest a b + if c == d then 0 else 1) with h | h <;> rw [h]
    · rcases min_choice (fewest a (d :: b) + 1) (fewest (c :: a) b + 1) with h | h <;> rw [h]
      · exact .step (.delete [] c a) delete
      · exact insert.trans (.step (.insert [] d b) (.none _))
    · by_cases hcd : c = d
      · subst hcd
        simpa using replace.cons c
      · rw [if_neg (by simpa using hcd)]
        exact (replace.cons c).trans (.step (.replace [] c d b) (.none _))

/-! ### No fewer edits are -/

theorem fewest_cons_left_le (c : Char) (a b : List Char) :
    fewest (c :: a) b ≤ fewest a b + 1 := by
  cases b with
  | nil => simp
  | cons d b =>
    rw [fewest_cons_cons]
    omega

theorem fewest_cons_right_le (d : Char) (a b : List Char) :
    fewest a (d :: b) ≤ fewest a b + 1 := by
  cases a with
  | nil => simp
  | cons c a =>
    rw [fewest_cons_cons]
    omega

theorem fewest_le_cons_left (c : Char) (a b : List Char) :
    fewest a b ≤ fewest (c :: a) b + 1 := by
  induction b with
  | nil => simp only [fewest_nil_right, List.length_cons]; omega
  | cons d b ih =>
    have right := fewest_cons_right_le d a b
    rw [fewest_cons_cons]
    split <;> omega

theorem fewest_replace_le (c d : Char) (a b : List Char) :
    fewest (c :: a) b ≤ fewest (d :: a) b + 1 := by
  induction b with
  | nil => simp
  | cons e b ih =>
    rw [fewest_cons_cons, fewest_cons_cons]
    split <;> split <;> omega

theorem fewest_cons_mono (e : Char) {a b : List Char}
    (h : ∀ w, fewest a w ≤ fewest b w + 1) (w : List Char) :
    fewest (e :: a) w ≤ fewest (e :: b) w + 1 := by
  induction w with
  | nil =>
    have short := h []
    simp only [fewest_nil_right, List.length_cons] at short ⊢
    omega
  | cons f w ih =>
    have delete := h (f :: w)
    have replace := h w
    rw [fewest_cons_cons, fewest_cons_cons]
    omega

/-- An edit brings a text at most one nearer to another. -/
theorem fewest_le_of_edit (h : Edit a b) (w : List Char) : fewest a w ≤ fewest b w + 1 := by
  have behind (u : List Char) {a b : List Char} (h : ∀ w, fewest a w ≤ fewest b w + 1) :
      ∀ w, fewest (u ++ a) w ≤ fewest (u ++ b) w + 1 := by
    induction u with
    | nil => exact h
    | cons e u ih => exact fewest_cons_mono e ih
  cases h with
  | insert u c v => exact behind u (fewest_le_cons_left c v) w
  | delete u c v => exact behind u (fewest_cons_left_le c v) w
  | replace u c d v => exact behind u (fewest_replace_le c d v) w

theorem fewest_le_of_edits (h : Edits n a b) : fewest a b ≤ n := by
  induction h with
  | none a => exact (fewest_self a).le
  | @step n a b c hd _ ih =>
    have nearer := fewest_le_of_edit hd c
    omega

end Distance

/-! ## The table -/

/-- The distances of a text `x` from `y`, and from `y` with more and more of `rest` in front. -/
def row (x : List Char) : (y rest : List Char) → List ℕ
  | y, [] => [fewest x y]
  | y, d :: ds => fewest x y :: row x (d :: y) ds

section Table

variable (x y ds : List Char)

theorem row_eq_cons_tail : row x y ds = fewest x y :: (row x y ds).tail := by
  cases ds <;> rfl

theorem getLast?_row : (row x y ds).getLast? = some (fewest x (ds.reverse ++ y)) := by
  induction ds generalizing y with
  | nil => rfl
  | cons d ds ih =>
    have rest := ih (d :: y)
    rw [row_eq_cons_tail] at rest
    rw [row, row_eq_cons_tail, List.getLast?_cons_cons, rest]
    simp

theorem row_nil : row [] y ds = List.range' y.length (ds.length + 1) := by
  induction ds generalizing y with
  | nil => simp [row]
  | cons d ds ih => simp [row, ih, List.range'_succ]

/-- The next row of the table: what is above an entry, to its left, and diagonal to it are the
distances that the recursion asks for. -/
theorem editRow_row (c : Char) :
    editRow c (fewest (c :: x) y) (fewest x y) ds (row x y ds).tail =
      (row (c :: x) y ds).tail := by
  induction ds generalizing y with
  | nil => rfl
  | cons d ds ih =>
    rw [row, row, List.tail_cons, List.tail_cons, row_eq_cons_tail x, row_eq_cons_tail (c :: x),
      editRow]
    have entry := fewest_cons_cons c d x y
    rw [← entry, ih]

theorem editRows_row (b cs : List Char) :
    editRows b cs (row x [] b) = row (cs.reverse ++ x) [] b := by
  induction cs generalizing x with
  | nil => rfl
  | cons c cs ih =>
    have first : fewest x [] + 1 = fewest (c :: x) [] := by simp
    rw [row_eq_cons_tail, editRows, first, editRow_row, ← row_eq_cons_tail, ih, List.reverse_cons,
      List.append_assoc, List.singleton_append]

end Table

theorem editDistance_eq (a b : List Char) : editDistance a b = fewest a.reverse b.reverse := by
  have start : List.range (b.length + 1) = row [] [] b := by
    rw [row_nil, List.range_eq_range', List.length_nil]
  rw [editDistance, start, editRows_row, getLast?_row, List.append_nil, List.append_nil,
    Option.getD_some]

/-! ## The distance of two texts -/

theorem isLeast_editDistance (a b : List Char) : IsLeast {n | Edits n a b} (editDistance a b) := by
  rw [editDistance_eq]
  exact ⟨edits_reverse_iff.1 (edits_fewest _ _),
    fun n h => fewest_le_of_edits (edits_reverse_iff.2 h)⟩

/-- The table of distances gives the least number of edits that lead from one text to the other.
It has the laws of a distance, and lies between the difference of the lengths and the greater of
them. -/
theorem editDistance_counts_edits (a b : List Char) :
    IsLeast {n | Edits n a b} (editDistance a b) ∧
      (editDistance a b = 0 ↔ a = b) ∧
      editDistance a b = editDistance b a ∧
      (∀ c, editDistance a c ≤ editDistance a b + editDistance b c) ∧
      |(a.length : ℤ) - b.length| ≤ editDistance a b ∧
      editDistance a b ≤ max a.length b.length := by
  have reached (a b : List Char) := (isLeast_editDistance a b).1
  have least {a b : List Char} {n : ℕ} (h : Edits n a b) := (isLeast_editDistance a b).2 h
  refine ⟨isLeast_editDistance a b, ⟨fun h => ?_, ?_⟩, ?_, fun c => ?_, ?_, ?_⟩
  · exact edits_zero_iff.1 (h ▸ reached a b)
  · rintro rfl
    exact Nat.le_zero.1 (least (.none a))
  · exact le_antisymm (least (reached b a).symm) (least (reached a b).symm)
  · exact least ((reached a b).trans (reached b c))
  · have forth := (reached a b).length_le
    have back := (reached a b).symm.length_le
    rw [abs_le]
    omega
  · simpa [editDistance_eq] using fewest_le_max a.reverse b.reverse

example : editDistance "kitten".toList "sitting".toList = 3 := by decide

end ApiAccord.EditDistance
