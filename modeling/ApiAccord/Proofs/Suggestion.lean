import ApiAccord.Similarity
import ApiAccord.Proofs.Decimal.Order
import Mathlib.Data.List.FinRange
import Mathlib.Data.List.Sort
import Mathlib.Data.Prod.Lex

/-!
# Suggestions are the best candidates

`suggest` keeps the candidates that score above a threshold, sorts them by descending score, and
cuts the list off.  Seen by the positions of candidates, this selects the first ones in the order
`RanksBefore`, where the higher score comes first and, of equal scores, the earlier candidate
(`suggest_selects_best`).

Scores are doubles, so a candidate is put in its place by the number that its score stands for
(`rank`): scores above a threshold stand for one.
-/

namespace ApiAccord.Suggestion

open Decimal

variable (path : String) (candidates : List String)

/-- The score of the candidate at a position. -/
def scoreAt (p : Fin candidates.length) : Float := similarity path candidates[p]

/-- The candidate at one position scores higher than the one at another, or it scores the same and
comes earlier. -/
def RanksBefore (p q : Fin candidates.length) : Prop :=
  scoreAt path candidates q < scoreAt path candidates p ∨
    (scoreAt path candidates p == scoreAt path candidates q) = true ∧ p < q

/-! ## The order of candidates -/

/-- The place of a candidate: the number of its score, higher ones first, and its position. -/
def rank (p : Fin candidates.length) : Extendedᵒᵈ ×ₗ Fin candidates.length :=
  toLex (.toDual ((number? (scoreAt path candidates p)).getD ⊥), p)

section Rank

variable {path candidates} {threshold : Float} {p q : Fin candidates.length}

theorem rank_injective : Function.Injective (rank path candidates) :=
  fun _ _ h => congrArg (fun r => (ofLex r).2) h

/-- What is greater than a double stands for a number. -/
theorem exists_number_of_lt {x y : Float} (h : x < y) : ∃ v, number? y = some v := by
  obtain ⟨_, v, -, hv, -⟩ := lt_iff_number.1 h
  exact ⟨v, hv⟩

theorem ranksBefore_iff (hp : threshold < scoreAt path candidates p)
    (hq : threshold < scoreAt path candidates q) :
    RanksBefore path candidates p q ↔ rank path candidates p < rank path candidates q := by
  obtain ⟨u, hu⟩ := exists_number_of_lt hp
  obtain ⟨v, hv⟩ := exists_number_of_lt hq
  rw [RanksBefore, lt_iff_number, beq_iff_number, rank, rank, Prod.Lex.toLex_lt_toLex, hu, hv]
  simp [eq_comm]

/-- A candidate scores higher than an earlier one just if it takes a place before it. -/
theorem lt_iff_rank_le (hp : threshold < scoreAt path candidates p)
    (hq : threshold < scoreAt path candidates q) (h : q < p) :
    scoreAt path candidates q < scoreAt path candidates p ↔
      rank path candidates p ≤ rank path candidates q := by
  have before := ranksBefore_iff hp hq
  have apart : rank path candidates p ≠ rank path candidates q := fun e => h.ne' (rank_injective e)
  rw [apart.le_iff_lt, ← before]
  exact (or_iff_left fun later => later.2.asymm h).symm

end Rank

/-! ## Sorting -/

section Sorting

/-- A candidate with its score. -/
def scored (p : Fin candidates.length) : Float × String :=
  (scoreAt path candidates p, candidates[p])

@[simp] theorem scored_fst (p : Fin candidates.length) :
    (scored path candidates p).1 = scoreAt path candidates p := by
  simp only [scored]

/-- A candidate takes no place after another. -/
def NotAfter (p q : Fin candidates.length) : Prop := rank path candidates p ≤ rank path candidates q

instance : DecidableRel (NotAfter path candidates) :=
  fun p q => inferInstanceAs (Decidable (rank path candidates p ≤ rank path candidates q))

instance : Std.Total (NotAfter path candidates) := ⟨fun _ _ => le_total _ _⟩

instance : IsTrans _ (NotAfter path candidates) := ⟨fun _ _ _ => le_trans⟩

variable {path candidates} {threshold : Float} {p : Fin candidates.length}
  {positions : List (Fin candidates.length)}

/-- A candidate is put in front of those that it scores higher than, and so takes its place among
earlier ones. -/
theorem insertScored_map (hp : threshold < scoreAt path candidates p)
    (earlier : ∀ q ∈ positions, threshold < scoreAt path candidates q ∧ q < p) :
    insertScored (scored path candidates p) (positions.map (scored path candidates)) =
      (positions.orderedInsert (NotAfter path candidates) p).map (scored path candidates) := by
  induction positions with
  | nil => rfl
  | cons q rest ih =>
    obtain ⟨hq, hqp⟩ := earlier q List.mem_cons_self
    have first : scoreAt path candidates q < scoreAt path candidates p ↔
        NotAfter path candidates p q := lt_iff_rank_le hp hq hqp
    rw [List.map_cons, insertScored, List.orderedInsert_cons, scored_fst, scored_fst]
    by_cases h : scoreAt path candidates q < scoreAt path candidates p
    · rw [if_pos h, if_pos (first.1 h)]
      rfl
    · rw [if_neg h, if_neg fun hr => h (first.2 hr),
        ih fun r hr => earlier r (List.mem_cons_of_mem q hr)]
      rfl

theorem sortScored_append (xs : List (Float × String)) (x : Float × String) :
    sortScored (xs ++ [x]) = insertScored x (sortScored xs) := by
  rw [sortScored, List.foldl_append]
  rfl

/-- Candidates that score above a threshold are sorted by their places. -/
theorem exists_sortScored_map (ordered : positions.Pairwise (· < ·))
    (above : ∀ p ∈ positions, threshold < scoreAt path candidates p) :
    ∃ sorted : List (Fin candidates.length), sortScored (positions.map (scored path candidates)) =
        sorted.map (scored path candidates) ∧
      sorted.Perm positions ∧ sorted.Pairwise (NotAfter path candidates) := by
  induction positions using List.reverseRecOn with
  | nil => exact ⟨[], rfl, .refl [], .nil⟩
  | append_singleton rest p ih =>
    obtain ⟨ordered, -, before⟩ := List.pairwise_append.1 ordered
    obtain ⟨sorted, hs, perm, places⟩ := ih ordered fun q hq =>
      above q (List.mem_append_left _ hq)
    have earlier : ∀ q ∈ sorted, threshold < scoreAt path candidates q ∧ q < p := by
      intro q hq
      have hq := perm.mem_iff.1 hq
      exact ⟨above q (List.mem_append_left _ hq), before q hq p List.mem_cons_self⟩
    have hp := above p (List.mem_append_right _ List.mem_cons_self)
    refine ⟨sorted.orderedInsert (NotAfter path candidates) p, ?_, ?_,
      places.orderedInsert p sorted⟩
    · rw [List.map_append, List.map_singleton, sortScored_append, hs, insertScored_map hp earlier]
    · exact ((List.perm_orderedInsert _ p sorted).trans (perm.cons p)).trans
        (List.perm_append_singleton p rest).symm

end Sorting

/-! ## The best candidates -/

/-- The positions of the candidates that score above a threshold. -/
def above (threshold : Float) : List (Fin candidates.length) :=
  (List.finRange candidates.length).filter fun p => threshold < scoreAt path candidates p

section Above

variable {path candidates} {threshold : Float}

theorem mem_above_iff {p : Fin candidates.length} :
    p ∈ above path candidates threshold ↔ threshold < scoreAt path candidates p := by
  simp [above]

theorem filter_scored : (candidates.map fun c => (similarity path c, c)).filter
      (fun s => decide (threshold < s.1)) =
    (above path candidates threshold).map (scored path candidates) := by
  have listed : candidates.map (fun c => (similarity path c, c)) =
      (List.finRange candidates.length).map (scored path candidates) := by
    conv_lhs => rw [← List.map_getElem_finRange candidates, List.map_map]
    rfl
  rw [listed, List.filter_map, above]
  simp only [Function.comp_def, scored_fst]

theorem length_above : (above path candidates threshold).length =
    candidates.countP fun c => threshold < similarity path c := by
  conv_rhs => rw [← List.map_getElem_finRange candidates, List.countP_map]
  rw [above, ← List.countP_eq_length_filter]
  rfl

end Above

/-- Suggestions are the first of the candidates above the threshold, by descending score and then by
position: as many as there are, up to the limit, and none of those that are left out ranks before
one of them. -/
theorem suggest_selects_best (threshold : Float) (limit : ℕ) :
    ∃ chosen : List (Fin candidates.length),
      suggest path candidates threshold limit = chosen.map (candidates[·]) ∧
      chosen.length = min limit (candidates.countP fun c => threshold < similarity path c) ∧
      chosen.Nodup ∧
      (∀ p ∈ chosen, threshold < scoreAt path candidates p) ∧
      chosen.Pairwise (RanksBefore path candidates) ∧
      ∀ q, q ∉ chosen → ¬threshold < scoreAt path candidates q ∨
        ∀ p ∈ chosen, RanksBefore path candidates p q := by
  have scores (p) : p ∈ above path candidates threshold → threshold < scoreAt path candidates p :=
    mem_above_iff.1
  obtain ⟨sorted, hs, perm, places⟩ := exists_sortScored_map
    ((List.pairwise_lt_finRange _).filter _) scores
  have high {p} (hp : p ∈ sorted) : threshold < scoreAt path candidates p :=
    scores p (perm.mem_iff.1 hp)
  have nodup : sorted.Nodup := perm.nodup_iff.2 ((List.nodup_finRange _).filter _)
  -- No two positions have the same place, so that each ranks before the next.
  have ranked : sorted.Pairwise (RanksBefore path candidates) := by
    refine (places.and nodup).imp_of_mem fun {p q} hp hq h => ?_
    exact (ranksBefore_iff (high hp) (high hq)).2
      (lt_of_le_of_ne h.1 fun e => h.2 (rank_injective e))
  have suggested : suggest path candidates threshold limit =
      (sorted.take limit).map (candidates[·]) := by
    have cut : takeLimit (limit : ℤ) (sorted.map (scored path candidates)) =
        (sorted.map (scored path candidates)).take limit := by
      simp [takeLimit]
    rw [suggest, filter_scored, above, hs, cut, ← List.map_take, List.map_map]
    rfl
  refine ⟨sorted.take limit, suggested, ?_, nodup.sublist (List.take_sublist limit sorted),
    fun p hp => high (List.mem_of_mem_take hp), ranked.sublist (List.take_sublist limit sorted), ?_⟩
  · rw [List.length_take, perm.length_eq, ← length_above]
    rfl
  · intro q left
    by_cases hq : threshold < scoreAt path candidates q
    · refine .inr fun p hp => ?_
      have member : q ∈ sorted := perm.mem_iff.2 (mem_above_iff.2 hq)
      rw [← List.take_append_drop limit sorted] at member ranked
      have dropped := (List.mem_append.1 member).resolve_left left
      exact (List.pairwise_append.1 ranked).2.2 p hp q dropped
    · exact .inl hq

end ApiAccord.Suggestion
