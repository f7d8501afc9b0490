import ApiAccord.Proofs.Feature.Anchors

/-!
# What becomes of a parameter list

A parameter list is split at its commas outside of brackets.  The pieces stand in the list in order,
trimmed and apart from each other, and hold everything but the commas and blanks around them, as
long as each bracket opened is closed.  The last piece is given up when a bracket is still open at
the end of the list, and the sign of a comparison is taken for one (`splitParameters_keeps_iff`).
-/

namespace ApiAccord.Matching

open Text (isBlank)
open Text.Chars (dropEndWhile trimBy)

variable {depth start base o i j : ℕ} {c : Char} {cs reversed rest params : List Char}
  {p : List Char × ℕ}

/-- The bracket depth that a text leaves, when it is read at the given one. -/
def finalDepth (depth : ℕ) (cs : List Char) : ℕ := cs.foldl depthAfter depth

/-- A comma outside of all brackets stands at the position, when the text is read at the given
bracket depth. -/
def Separates (depth : ℕ) (cs : List Char) (i : ℕ) : Prop :=
  cs[i]? = some ',' ∧ finalDepth depth (cs.take i) = 0

instance (depth : ℕ) (cs : List Char) (i : ℕ) : Decidable (Separates depth cs i) :=
  inferInstanceAs (Decidable (_ ∧ _))

/-- A piece reaches over the offset. -/
def Covers (p : List Char × ℕ) (o : ℕ) : Prop := p.2 ≤ o ∧ o < p.2 + p.1.length

instance (p : List Char × ℕ) (o : ℕ) : Decidable (Covers p o) := inferInstanceAs (Decidable (_ ∧ _))

/-! ## Separators -/

theorem separates_zero_iff : Separates depth (c :: cs) 0 ↔ c = ',' ∧ depth = 0 := by
  simp [Separates, finalDepth]

theorem separates_succ_iff :
    Separates depth (c :: cs) (i + 1) ↔ Separates (depthAfter depth c) cs i := by
  simp [Separates, finalDepth]

/-- What is read up to here belongs to a piece: a separator follows, or all brackets are closed at
the end. -/
def Flushed (depth : ℕ) (cs : List Char) : Prop :=
  finalDepth depth cs = 0 ∨ ∃ k, Separates depth cs k

theorem flushed_nil_iff : Flushed depth [] ↔ depth = 0 := by simp [Flushed, finalDepth, Separates]

theorem flushed_of_separator : Flushed 0 (',' :: cs) := .inr ⟨0, separates_zero_iff.2 ⟨rfl, rfl⟩⟩

theorem flushed_cons_iff (h : ¬ (c = ',' ∧ depth = 0)) :
    Flushed depth (c :: cs) ↔ Flushed (depthAfter depth c) cs := by
  refine or_congr Iff.rfl ⟨?_, fun ⟨k, hk⟩ => ⟨k + 1, separates_succ_iff.2 hk⟩⟩
  rintro ⟨k, hk⟩
  cases k with
  | zero => exact absurd (separates_zero_iff.1 hk) h
  | succ k => exact ⟨k, separates_succ_iff.1 hk⟩

/-! ## A single piece -/

theorem mem_piece?_iff : p ∈ piece? reversed start ↔ trimBy isBlank reversed.reverse ≠ [] ∧
    p = (trimBy isBlank reversed.reverse,
      start + (reversed.reverse.takeWhile isBlank).length) := by
  simp only [piece?, Option.mem_def]
  split
  · next blank => simp [List.isEmpty_iff.1 blank]
  · next some => simp [mt List.isEmpty_iff.2 some, @eq_comm _ p]

theorem takeWhile_append_trimBy (q : Char → Bool) (cs : List Char) :
    cs.takeWhile q ++ (trimBy q cs ++ (cs.dropWhile q).rtakeWhile q) = cs := by
  have behind : trimBy q cs ++ (cs.dropWhile q).rtakeWhile q = cs.dropWhile q :=
    List.rdropWhile_append_rtakeWhile
  rw [behind, List.takeWhile_append_dropWhile]

/-- What is not blank is in the piece. -/
theorem exists_piece?_covers (at_j : reversed.reverse[j]? = some c) (hc : isBlank c = false) :
    ∃ p ∈ piece? reversed start, Covers p (start + j) := by
  set cs := reversed.reverse with hcs
  have parts := takeWhile_append_trimBy isBlank cs
  have before : (cs.takeWhile isBlank).length ≤ j := by
    by_contra lt
    rw [← parts, List.getElem?_append_left (by omega)] at at_j
    have := List.mem_takeWhile_imp (List.mem_of_getElem? at_j)
    exact absurd (hc.symm.trans this) Bool.false_ne_true
  have behind : j - (cs.takeWhile isBlank).length < (trimBy isBlank cs).length := by
    by_contra ge
    rw [← parts, List.getElem?_append_right before, List.getElem?_append_right (by omega)] at at_j
    have := List.mem_rtakeWhile_imp (List.mem_of_getElem? at_j)
    exact absurd (hc.symm.trans this) Bool.false_ne_true
  refine ⟨_, mem_piece?_iff.2 ⟨List.ne_nil_of_length_pos (Nat.zero_lt_of_lt behind), rfl⟩, ?_⟩
  constructor
  · exact Nat.add_le_add_left before start
  · show start + j < start + (cs.takeWhile isBlank).length + (trimBy isBlank cs).length
    omega

/-! ## All pieces -/

/-- A piece is trimmed and not empty. -/
theorem trimmed_of_mem_splitFrom (h : p ∈ splitFrom depth start reversed rest) :
    p.1 ≠ [] ∧ trimBy isBlank p.1 = p.1 := by
  have here {reversed : List Char} {start : ℕ} (h : p ∈ (piece? reversed start).toList) :
      p.1 ≠ [] ∧ trimBy isBlank p.1 = p.1 := by
    obtain ⟨some, rfl⟩ := mem_piece?_iff.1 (Option.mem_toList.1 h)
    exact ⟨some, Text.Chars.trimBy_trimBy isBlank reversed.reverse⟩
  fun_induction splitFrom depth start reversed rest with
  | case1 depth start reversed flat => exact here h
  | case2 => cases h
  | case3 depth start reversed c rest comma ih => exact (List.mem_append.1 h).elim here ih
  | case4 depth start reversed c rest _ ih => exact ih h

theorem length_le_of_mem_piece? (h : p ∈ piece? reversed start) :
    start ≤ p.2 ∧ p.2 + p.1.length ≤ start + reversed.length := by
  obtain ⟨le, stands⟩ := prefix_of_mem_piece? h
  obtain ⟨some, rfl⟩ := mem_piece?_iff.1 h
  have pos := List.length_pos_iff.2 some
  have len := stands.length_le
  rw [List.length_drop, List.length_reverse] at len
  refine ⟨le, ?_⟩
  dsimp only at len ⊢
  omega

theorem pairwise_splitFrom (depth start : ℕ) (reversed rest : List Char) :
    (splitFrom depth start reversed rest).Pairwise fun p q => p.2 + p.1.length < q.2 := by
  fun_induction splitFrom depth start reversed rest with
  | case1 depth start reversed flat => cases piece? reversed start <;> simp
  | case2 => exact List.Pairwise.nil
  | case3 depth start reversed c rest comma ih =>
    refine List.pairwise_append.2 ⟨?_, ih, ?_⟩
    · cases piece? reversed start <;> simp
    · intro p hp q hq
      have before := (length_le_of_mem_piece? (Option.mem_toList.1 hp)).2
      have behind := (prefix_of_mem_splitFrom hq).1
      omega
  | case4 depth start reversed c rest _ ih => exact ih

/-- What was read since the last separator is kept if the piece is flushed. -/
theorem read_covered_iff (at_j : reversed.reverse[j]? = some c) (hc : isBlank c = false) :
    (∃ p ∈ splitFrom depth start reversed rest, Covers p (start + j)) ↔ Flushed depth rest := by
  fun_induction splitFrom depth start reversed rest with
  | case1 depth start reversed flat =>
    refine iff_of_true ?_ (flushed_nil_iff.2 (beq_iff_eq.1 flat))
    obtain ⟨p, hp, reached⟩ := exists_piece?_covers at_j hc
    exact ⟨p, Option.mem_toList.2 hp, reached⟩
  | case2 depth start reversed inside =>
    refine iff_of_false ?_ (mt flushed_nil_iff.1 fun flat => inside (beq_iff_eq.2 flat))
    rintro ⟨p, hp, -⟩
    exact List.not_mem_nil hp
  | case3 depth start reversed c' rest comma ih =>
    obtain ⟨rfl, rfl⟩ : c' = ',' ∧ depth = 0 := by simpa using comma
    refine iff_of_true ?_ flushed_of_separator
    obtain ⟨p, hp, reached⟩ := exists_piece?_covers at_j hc
    exact ⟨p, List.mem_append_left _ (Option.mem_toList.2 hp), reached⟩
  | case4 depth start reversed c' rest comma ih =>
    rw [flushed_cons_iff (by simpa using comma)]
    refine ih ?_
    rw [List.reverse_cons, List.getElem?_append_left (List.getElem?_eq_some_iff.1 at_j).1, at_j]

/-- The piece before a comma does not reach it, and the others begin behind it. -/
theorem covered_at_comma_iff :
    (∃ p ∈ (piece? reversed start).toList ++ splitFrom depth (start + reversed.length + 1) [] rest,
      Covers p (start + reversed.length + i)) ↔
    i ≠ 0 ∧ ∃ p ∈ splitFrom depth (start + reversed.length + 1) [] rest,
      Covers p (start + reversed.length + i) := by
  constructor
  · rintro ⟨p, hp, reached⟩
    rcases List.mem_append.1 hp with hp | hp
    · have := (length_le_of_mem_piece? (Option.mem_toList.1 hp)).2
      have := reached.2
      omega
    · have := (prefix_of_mem_splitFrom hp).1
      have := reached.1
      exact ⟨by omega, p, hp, reached⟩
  · rintro ⟨-, p, hp, reached⟩
    exact ⟨p, List.mem_append_right _ hp, reached⟩

/-- What is still to be read is kept unless it is a separator or is not flushed. -/
theorem unread_covered_iff (at_i : rest[i]? = some c) (hc : isBlank c = false) :
    (∃ p ∈ splitFrom depth start reversed rest, Covers p (start + reversed.length + i)) ↔
      ¬ Separates depth rest i ∧
        Flushed (finalDepth depth (rest.take (i + 1))) (rest.drop (i + 1)) := by
  fun_induction splitFrom depth start reversed rest generalizing i with
  | case1 => cases at_i
  | case2 => cases at_i
  | case3 depth start reversed c' rest comma ih =>
    obtain ⟨rfl, rfl⟩ : c' = ',' ∧ depth = 0 := by simpa using comma
    rw [covered_at_comma_iff]
    cases i with
    | zero => exact iff_of_false (fun h => h.1 rfl) fun h => h.1 (separates_zero_iff.2 ⟨rfl, rfl⟩)
    | succ i =>
      have behind : start + reversed.length + (i + 1) =
          start + reversed.length + 1 + ([] : List Char).length + i := by
        rw [List.length_nil]
        omega
      rw [separates_succ_iff, List.take_succ_cons, List.drop_succ_cons, behind]
      exact (and_iff_right (Nat.succ_ne_zero i)).trans (ih at_i)
  | case4 depth start reversed c' rest comma ih =>
    cases i with
    | zero =>
      obtain rfl : c' = c := Option.some.inj at_i
      have last : (c' :: reversed).reverse[reversed.length]? = some c' := by
        rw [List.reverse_cons, List.getElem?_append_right (by simp)]
        simp
      refine (read_covered_iff last hc).trans (iff_and_self.2 fun _ => ?_)
      exact mt separates_zero_iff.1 (by simpa using comma)
    | succ i =>
      rw [separates_succ_iff, List.take_succ_cons, List.drop_succ_cons]
      have behind : start + reversed.length + (i + 1) =
          start + (c' :: reversed).length + i := by
        rw [List.length_cons]
        omega
      rw [behind]
      exact ih at_i

/-! ## Which characters are kept -/

theorem finalDepth_append (depth : ℕ) (front behind : List Char) :
    finalDepth depth (front ++ behind) = finalDepth (finalDepth depth front) behind :=
  List.foldl_append

/-- A separator of what follows is one of the whole. -/
theorem separates_drop_iff :
    Separates (finalDepth depth (cs.take i)) (cs.drop i) j ↔ Separates depth cs (i + j) := by
  rw [Separates, Separates, ← finalDepth_append, List.take_add, List.getElem?_drop]

theorem flushed_drop_iff (i : ℕ) : Flushed (finalDepth depth (cs.take (i + 1))) (cs.drop (i + 1)) ↔
    finalDepth depth cs = 0 ∨ ∃ k > i, Separates depth cs k := by
  refine or_congr ?_ ?_
  · rw [← finalDepth_append, List.take_append_drop]
  · simp only [separates_drop_iff]
    constructor
    · rintro ⟨k, hk⟩
      exact ⟨i + 1 + k, by omega, hk⟩
    · rintro ⟨k, lt, hk⟩
      exact ⟨k - (i + 1), by rwa [Nat.add_sub_cancel' (by omega)]⟩

/-- Pieces that stand apart do not share an offset. -/
theorem existsUnique_covers_iff {pieces : List (List Char × ℕ)}
    (apart : pieces.Pairwise fun p q => p.2 + p.1.length < q.2) :
    (∃! p, p ∈ pieces ∧ Covers p o) ↔ ∃ p ∈ pieces, Covers p o := by
  refine ⟨ExistsUnique.exists, fun ⟨p, hp, reached⟩ => ⟨p, ⟨hp, reached⟩, ?_⟩⟩
  rintro q ⟨hq, reached'⟩
  by_contra ne
  have disjoint : pieces.Pairwise fun p q => ¬ (Covers p o ∧ Covers q o) := by
    refine apart.imp ?_
    rintro p q lt ⟨⟨-, before⟩, behind, -⟩
    omega
  have : Std.Symm fun p q : List Char × ℕ => ¬ (Covers p o ∧ Covers q o) :=
    ⟨fun _ _ h h' => h h'.symm⟩
  exact disjoint.forall hp hq (Ne.symm ne) ⟨reached, reached'⟩

theorem separates_append_iff_of_lt {front : List Char} (h : i < front.length)
    (behind : List Char) :
    Separates depth (front ++ behind) i ↔ Separates depth front i := by
  rw [Separates, Separates, List.getElem?_append_left h, List.take_append_of_le_length h.le]

theorem not_separates_of_length_le (h : cs.length ≤ i) : ¬ Separates depth cs i := by
  rintro ⟨comma, -⟩
  rw [List.getElem?_eq_none h] at comma
  cases comma

theorem opensBracket_of_depthAfter_ne (h : depthAfter 0 c ≠ 0) : opensBracket c = true := by
  unfold depthAfter at h
  split at h
  · assumption
  · split at h <;> exact absurd rfl h

theorem not_isBlank_of_opensBracket (h : opensBracket c = true) : isBlank c = false := by
  simp only [opensBracket, Bool.or_eq_true, beq_iff_eq] at h
  rcases h with ((rfl | rfl) | rfl) | rfl <;> rfl

/-- Where a bracket is open at the end, one that no separator follows was opened. -/
theorem exists_not_flushed (h : finalDepth 0 cs ≠ 0) :
    ∃ i c, cs[i]? = some c ∧ isBlank c = false ∧ ∀ k ≥ i, ¬ Separates 0 cs k := by
  induction cs using List.reverseRecOn with
  | nil => exact absurd rfl h
  | append_singleton front c ih =>
    have inside : ∀ k > front.length, ¬ Separates 0 (front ++ [c]) k := fun k lt =>
      not_separates_of_length_le (by simpa [Nat.succ_le_iff] using lt)
    rw [finalDepth_append] at h
    by_cases flat : finalDepth 0 front = 0
    · rw [flat] at h
      have opens : opensBracket c = true := opensBracket_of_depthAfter_ne h
      refine ⟨front.length, c, by simp, not_isBlank_of_opensBracket opens, fun k ge => ?_⟩
      rcases ge.lt_or_eq with lt | rfl
      · exact inside k lt
      · rintro ⟨comma, -⟩
        obtain rfl : c = ',' := by simpa using comma
        cases opens
    · obtain ⟨i, c', at_i, hc, none⟩ := ih flat
      refine ⟨i, c', ?_, hc, fun k ge => ?_⟩
      · rw [List.getElem?_append_left (List.getElem?_eq_some_iff.1 at_i).1, at_i]
      rcases lt_trichotomy k front.length with lt | rfl | gt
      · exact mt (separates_append_iff_of_lt lt [c]).1 (none k ge)
      · rintro ⟨-, depth⟩
        rw [List.take_left] at depth
        exact flat depth
      · exact inside k gt

/-- The pieces of a parameter list stand in it in order and apart from each other, trimmed and not
empty, each at its offset.  What is not blank is in exactly one of them, unless it is a separator,
or no separator follows and a bracket is open at the end.  So all that is not blank is kept, but
for separators, exactly if no bracket is open at the end. -/
theorem splitParameters_keeps_iff (params : List Char) (base : ℕ) :
    let pieces := splitParameters params base
    pieces.Pairwise (fun p q => p.2 + p.1.length < q.2) ∧
    (∀ p ∈ pieces, p.1 ≠ [] ∧ trimBy isBlank p.1 = p.1 ∧
      base ≤ p.2 ∧ p.1 <+: params.drop (p.2 - base)) ∧
    (∀ i c, params[i]? = some c → isBlank c = false →
      ((∃! p, p ∈ pieces ∧ Covers p (base + i)) ↔ ¬ Separates 0 params i ∧
        (finalDepth 0 params = 0 ∨ ∃ k > i, Separates 0 params k))) ∧
    ((∀ i c, params[i]? = some c → isBlank c = false → ¬ Separates 0 params i →
      ∃! p, p ∈ pieces ∧ Covers p (base + i)) ↔ finalDepth 0 params = 0) := by
  intro pieces
  have apart : pieces.Pairwise fun p q => p.2 + p.1.length < q.2 := pairwise_splitFrom 0 base [] _
  have kept : ∀ i c, params[i]? = some c → isBlank c = false →
      ((∃! p, p ∈ pieces ∧ Covers p (base + i)) ↔ ¬ Separates 0 params i ∧
        (finalDepth 0 params = 0 ∨ ∃ k > i, Separates 0 params k)) := by
    intro i c at_i hc
    rw [existsUnique_covers_iff apart, ← flushed_drop_iff]
    have covered : (∃ p ∈ splitFrom 0 base [] params, Covers p (base + [].length + i)) ↔ _ :=
      unread_covered_iff at_i hc
    exact covered
  refine ⟨apart, fun p hp => ?_, kept, ⟨fun all => ?_, fun flat i c at_i hc plain => ?_⟩⟩
  · obtain ⟨some, trimmed⟩ := trimmed_of_mem_splitFrom hp
    exact ⟨some, trimmed, prefix_of_mem_splitParameters hp⟩
  · by_contra inside
    obtain ⟨i, c, at_i, hc, none⟩ := exists_not_flushed inside
    obtain ⟨-, flat | ⟨k, gt, hk⟩⟩ := (kept i c at_i hc).1 (all i c at_i hc (none i le_rfl))
    · exact inside flat
    · exact none k gt.le hk
  · exact (kept i c at_i hc).2 ⟨plain, .inl flat⟩

/-- A parameter whose default compares is lost: the sign stands for a bracket that stays open. -/
theorem splitParameters_drops_comparison :
    let params := "a, b=x<y".toList
    splitParameters params 6 = [(['a'], 6)] ∧ params[3]? = some 'b' ∧ isBlank 'b' = false ∧
      ¬ Separates 0 params 3 ∧ ∀ p ∈ splitParameters params 6, ¬ Covers p (6 + 3) := by
  decide

end ApiAccord.Matching
