import ApiAccord.Similarity
import ApiAccord.Proofs.EditDistance
import Mathlib.Algebra.Order.Field.Rat
import Mathlib.Tactic.Linarith
import Mathlib.Tactic.NormNum
import Mathlib.Tactic.Positivity

/-!
# Similarity is a number from zero to one

The score of likeness is a number made of counts.  `scoreOver` makes it in any arithmetic: in that
of doubles it is the score of the library (`score_eq_scoreOver`), and in that of rational numbers it
can be compared with its bounds.

`exactScore?` goes through the three grounds of likeness in rational numbers, with a division that
gives nothing at zero.  It always gives the score (`exactScore?_eq_some`), since the counts that are
divided are sound: no more words have partners than there are words, and different names are some
edits apart, but no more than the longer one has characters (`sound_ofCores`).
-/

namespace ApiAccord.Likeness

open EditDistance

/-! ## Scores in any arithmetic -/

/-- The score of likeness, made of counts that are taken for numbers. -/
def scoreOver {α : Type} [OfScientific α] [Add α] [Sub α] [Mul α] [Div α] (number : ℕ → α) :
    Likeness → α
  | .bothEmpty => number 1
  | .contained => 0.8
  | .sharedWords matched total => 0.5 + number matched / number total * 0.3
  | .edits distance length => (number length - number distance) / number length

theorem score_eq_scoreOver (x : Likeness) : x.score = x.scoreOver Nat.toFloat := by
  cases x <;> rfl

/-- The score of likeness in rational numbers. -/
def exactScore (x : Likeness) : ℚ := x.scoreOver Nat.cast

/-! ## The three grounds in exact numbers -/

/-- The quotient of two numbers, if there is one. -/
def quotient? (x y : ℚ) : Option ℚ := if y = 0 then none else some (x / y)

/-- The number of words that are related to one of the others. -/
def partnered (left right : List (List Char)) : ℕ := left.countP fun w => right.any (related w)

/-- The share of the words of the longer name that have a partner. -/
def share? (left right : List (List Char)) : Option ℚ :=
  let total := max left.length right.length
  if total = 0 then some 0 else quotient? (partnered left right) total

/-- The score of two names, in lower case and without outer slashes, as long as each division has a
quotient. -/
def exactScore? (left right : List Char) : Option ℚ :=
  if left = [] ∧ right = [] then some 1
  else if left ≠ [] ∧ right ≠ [] ∧ related left right = true then some (4 / 5)
  else do
    let share ← share? (words left) (words right)
    if 3 / 10 < share then return 1 / 2 + share * (3 / 10)
    let longer : ℕ := max left.length right.length
    quotient? (longer - editDistance left right) longer

/-! ## Sound grounds -/

/-- The counts in the grounds of likeness are bounded. -/
inductive Sound : Likeness → Prop where
  | bothEmpty : Sound .bothEmpty
  | contained : Sound .contained
  | sharedWords {matched total : ℕ} (le : matched ≤ total) (enough : 3 * total < 10 * matched) :
    Sound (.sharedWords matched total)
  | edits {distance length : ℕ} (pos : 0 < distance) (le : distance ≤ length) :
    Sound (.edits distance length)

section Sound

variable {x : Likeness} {left right cs : List Char}

theorem related_self (cs : List Char) : related cs cs = true := by
  rw [related, Text.Chars.occursIn_iff.2 (List.infix_refl cs), Bool.true_or]

theorem editDistance_le_max (a b : List Char) : editDistance a b ≤ max a.length b.length := by
  rw [editDistance_eq, ← a.length_reverse, ← b.length_reverse]
  exact fewest_le_max a.reverse b.reverse

theorem editDistance_pos (h : left ≠ right) : 0 < editDistance left right := by
  refine Nat.pos_of_ne_zero fun zero => h (edits_zero_iff.1 ?_)
  exact zero ▸ (isLeast_editDistance left right).1

theorem partnered_le_max (left right : List (List Char)) :
    partnered left right ≤ max left.length right.length :=
  List.countP_le_length.trans (le_max_left _ _)

theorem ofCores_nil : ofCores [] [] = .bothEmpty := rfl

theorem ofCores_of_related (hl : left ≠ []) (hr : right ≠ []) (h : related left right = true) :
    ofCores left right = .contained := by
  simp [ofCores, hl, hr, h]

/-- Names of which none contains the other are compared by their words, or else by characters. -/
theorem ofCores_of_apart (notEmpty : ¬(left = [] ∧ right = []))
    (apart : ¬(left ≠ [] ∧ right ≠ [] ∧ related left right = true)) :
    ofCores left right =
      if 3 * max (words left).length (words right).length <
          10 * partnered (words left) (words right) then
        .sharedWords (partnered (words left) (words right))
          (max (words left).length (words right).length)
      else .edits (editDistance left right) (max left.length right.length) := by
  unfold ofCores
  rw [if_neg (by simpa using notEmpty), if_neg (by simpa [and_assoc] using apart)]
  rfl

/-- Equal names are both empty, or contain each other. -/
theorem ne_of_apart (notEmpty : ¬(left = [] ∧ right = []))
    (apart : ¬(left ≠ [] ∧ right ≠ [] ∧ related left right = true)) : left ≠ right := by
  rintro rfl
  have hl : left ≠ [] := fun h => notEmpty ⟨h, h⟩
  exact apart ⟨hl, hl, related_self left⟩

theorem ofCores_eq_bothEmpty_iff : ofCores left right = .bothEmpty ↔ left = [] ∧ right = [] := by
  refine ⟨fun h => ?_, ?_⟩
  · by_contra notEmpty
    by_cases near : left ≠ [] ∧ right ≠ [] ∧ related left right = true
    · rw [ofCores_of_related near.1 near.2.1 near.2.2] at h
      cases h
    · rw [ofCores_of_apart notEmpty near] at h
      split at h <;> cases h
  · rintro ⟨rfl, rfl⟩
    exact ofCores_nil

theorem sound_ofCores (left right : List Char) : (ofCores left right).Sound := by
  by_cases empty : left = [] ∧ right = []
  · rw [ofCores_eq_bothEmpty_iff.2 empty]
    exact .bothEmpty
  · by_cases near : left ≠ [] ∧ right ≠ [] ∧ related left right = true
    · rw [ofCores_of_related near.1 near.2.1 near.2.2]
      exact .contained
    · rw [ofCores_of_apart empty near]
      split
      · next enough => exact .sharedWords (partnered_le_max _ _) enough
      · exact .edits (editDistance_pos (ne_of_apart empty near)) (editDistance_le_max left right)

end Sound

/-! ## Scores of sound grounds -/

section Scores

variable {x : Likeness} {left right : List Char} {matched total distance length : ℕ}

theorem exactScore_bothEmpty : exactScore .bothEmpty = 1 := Nat.cast_one

theorem exactScore_contained : exactScore .contained = 4 / 5 := by
  norm_num [exactScore, scoreOver]

theorem exactScore_sharedWords (matched total : ℕ) :
    exactScore (.sharedWords matched total) = 1 / 2 + (matched : ℚ) / total * (3 / 10) := by
  norm_num [exactScore, scoreOver]

/-- The edits take away from the whole what they are of it. -/
theorem exactScore_edits (pos : 0 < length) :
    exactScore (.edits distance length) = 1 - (distance : ℚ) / length := by
  rw [exactScore, scoreOver, sub_div, div_self (Nat.cast_ne_zero.2 pos.ne')]

theorem share_le_one {part whole : ℕ} (h : part ≤ whole) : (part : ℚ) / whole ≤ 1 :=
  div_le_one_of_le₀ (Nat.cast_le.2 h) (Nat.cast_nonneg whole)

theorem exactScore_nonneg (h : x.Sound) : 0 ≤ x.exactScore := by
  cases h with
  | bothEmpty => exact exactScore_bothEmpty ▸ zero_le_one
  | contained => norm_num [exactScore_contained]
  | sharedWords =>
    rw [exactScore_sharedWords]
    positivity
  | edits pos le =>
    rw [exactScore_edits (pos.trans_le le)]
    exact sub_nonneg.2 (share_le_one le)

/-- Names that are not both empty do not reach the score of those that are. -/
theorem exactScore_lt_one (h : x.Sound) (notEmpty : x ≠ .bothEmpty) : x.exactScore < 1 := by
  cases h with
  | bothEmpty => exact absurd rfl notEmpty
  | contained => norm_num [exactScore_contained]
  | sharedWords le =>
    have share := share_le_one le
    rw [exactScore_sharedWords]
    linarith
  | edits pos le =>
    have share : (0 : ℚ) < _ / _ := div_pos (Nat.cast_pos.2 pos) (Nat.cast_pos.2 (pos.trans_le le))
    rw [exactScore_edits (pos.trans_le le)]
    exact sub_lt_self 1 share

theorem exactScore_le_one (h : x.Sound) : x.exactScore ≤ 1 := by
  by_cases empty : x = .bothEmpty
  · rw [empty, exactScore_bothEmpty]
  · exact (exactScore_lt_one h empty).le

theorem exactScore_eq_one_iff (h : x.Sound) : x.exactScore = 1 ↔ x = .bothEmpty := by
  refine ⟨fun one => ?_, fun empty => empty ▸ exactScore_bothEmpty⟩
  by_contra notEmpty
  exact (exactScore_lt_one h notEmpty).ne one

/-! ## Every division has a quotient -/

theorem quotient?_eq_some {x y : ℚ} (h : y ≠ 0) : quotient? x y = some (x / y) := if_neg h

/-- There always is a share of words with a partner, and the words are enough for a score just if it
is. -/
theorem exists_share (left right : List (List Char)) : ∃ share : ℚ,
    share? left right = some share ∧
      (3 * max left.length right.length < 10 * partnered left right ↔ 3 / 10 < share) ∧
      (3 / 10 < share →
        share = (partnered left right : ℚ) / (max left.length right.length : ℕ)) := by
  have bound := partnered_le_max left right
  unfold share?
  dsimp only
  generalize max left.length right.length = total at bound ⊢
  by_cases none : total = 0
  · have low : ¬(3 / 10 : ℚ) < 0 := by norm_num
    refine ⟨0, if_pos none, ⟨fun h => ?_, fun h => absurd h low⟩, fun h => absurd h low⟩
    omega
  · have pos : (0 : ℚ) < total := Nat.cast_pos.2 (Nat.pos_of_ne_zero none)
    refine ⟨_, (if_neg none).trans (quotient?_eq_some pos.ne'), ?_, fun _ => rfl⟩
    rw [lt_div_iff₀ pos, ← @Nat.cast_lt ℚ]
    push_cast
    constructor <;> intro h <;> linarith

/-- In exact numbers, each division on the way to a score has a quotient. -/
theorem exactScore?_eq_some (left right : List Char) :
    exactScore? left right = some (ofCores left right).exactScore := by
  unfold exactScore?
  by_cases empty : left = [] ∧ right = []
  · rw [if_pos empty, ofCores_eq_bothEmpty_iff.2 empty, exactScore_bothEmpty]
  · rw [if_neg empty]
    by_cases near : left ≠ [] ∧ right ≠ [] ∧ related left right = true
    · rw [if_pos near, ofCores_of_related near.1 near.2.1 near.2.2, exactScore_contained]
    · obtain ⟨share, hs, enough, eq⟩ := exists_share (words left) (words right)
      have sound := sound_ofCores left right
      rw [ofCores_of_apart empty near] at sound ⊢
      rw [if_neg near, hs, Option.bind_eq_bind, Option.bind_some]
      by_cases high : 3 / 10 < share
      · rw [if_pos high, if_pos (enough.2 high), exactScore_sharedWords, ← eq high]
        rfl
      · rw [if_neg (mt enough.1 high)] at sound ⊢
        rw [if_neg high]
        cases sound with
        | edits pos le => exact quotient?_eq_some (Nat.cast_ne_zero.2 (pos.trans_le le).ne')

end Scores

/-! ## Similarity -/

/-- Similarity in exact numbers.  It is the same expression as in doubles, its divisions all have a
quotient, and it lies between zero and one.  It is one only for names that are both empty, and equal
names that are not score four fifths. -/
theorem exactScore_bounds (a b : String) :
    similarity a b = (Likeness.of a b).scoreOver Nat.toFloat ∧
      exactScore? (core a) (core b) = some (Likeness.of a b).exactScore ∧
      0 ≤ (Likeness.of a b).exactScore ∧ (Likeness.of a b).exactScore ≤ 1 ∧
      ((Likeness.of a b).exactScore = 1 ↔ core a = [] ∧ core b = []) ∧
      (core a = core b → core a ≠ [] → (Likeness.of a b).exactScore = 4 / 5) := by
  have sound : (Likeness.of a b).Sound := sound_ofCores (core a) (core b)
  refine ⟨score_eq_scoreOver _, exactScore?_eq_some _ _, exactScore_nonneg sound,
    exactScore_le_one sound, (exactScore_eq_one_iff sound).trans ofCores_eq_bothEmpty_iff,
    fun same notEmpty => ?_⟩
  have near : Likeness.of a b = .contained := by
    rw [Likeness.of, ← same]
    exact ofCores_of_related notEmpty notEmpty (related_self _)
  rw [near, exactScore_contained]

theorem exactScore_bounds_pets : core "/Pets/" = core "pets" ∧ core "/Pets/" ≠ [] ∧
    exactScore? (core "/Pets/") (core "pets") = some (4 / 5) := by
  have same : core "/Pets/" = core "pets" := by decide +kernel
  have notEmpty : core "/Pets/" ≠ [] := by decide +kernel
  obtain ⟨-, score, -, -, -, equal⟩ := exactScore_bounds "/Pets/" "pets"
  exact ⟨same, notEmpty, equal same notEmpty ▸ score⟩

end ApiAccord.Likeness
