import ApiAccord.Proofs.Pattern

/-!
# Matches in a text

A match reaches from its start onwards, and what it remembers lies within it (`span_of_matchAt`).
The matches in a text are found from left to right, and a place at which the pattern matches is left
out only if another match covers it (`mem_or_covered`).  So where no match begins inside of another
one, all of them are found (`mem_allMatches`).

A pattern that begins with a character matches only where there is one of its class
(`head_of_matchAt`), and one that neither has anchors nor remembers anything does no more than take
a word of its language (`mem_outcomes_iff_of_isBare`).
-/

namespace ApiAccord.Pattern

variable {text : Array Char} {cs : List Char} {p : Pattern} {st st' : State} {m m' : Match}
  {i j n fuel : ℕ}

/-! ## Ways to match, part by part -/

theorem mem_outcomes_char {k : CharClass} : st' ∈ outcomes text (.char k) st ↔
    ∃ c, text[st.pos]? = some c ∧ k.holds c = true ∧ st' = ⟨st.pos + 1, st.groups⟩ := by
  rw [outcomes]
  cases text[st.pos]? with
  | none => simp
  | some c => simp [List.mem_ite_nil_right]

theorem mem_outcomes_append {a b : Pattern} : st' ∈ outcomes text (a ++ b) st ↔
    ∃ mid ∈ outcomes text a st, st' ∈ outcomes text b mid :=
  List.mem_flatMap

theorem mem_outcomes_group {g : ℕ} {a : Pattern} : st' ∈ outcomes text (.group g a) st ↔
    ∃ mid ∈ outcomes text a st, st' = ⟨mid.pos, (g, st.pos, mid.pos) :: mid.groups⟩ := by
  simp only [outcomes, List.mem_map, eq_comm]

theorem mem_outcomes_textStart : st' ∈ outcomes text .textStart st ↔ st.pos = 0 ∧ st' = st := by
  simp [outcomes, List.mem_ite_nil_right]

theorem mem_outcomes_textEnd :
    st' ∈ outcomes text .textEnd st ↔ isTextEnd text st.pos = true ∧ st' = st := by
  simp [outcomes, List.mem_ite_nil_right]

theorem mem_outcomes_wordEdge :
    st' ∈ outcomes text .wordEdge st ↔ isWordEdge text st.pos = true ∧ st' = st := by
  simp [outcomes, List.mem_ite_nil_right]

/-! ## Progress -/

/-- From one state a match gets on to another, and what it remembers on the way lies between. -/
structure Advances (st st' : State) : Prop where
  le : st.pos ≤ st'.pos
  groups : ∀ g ∈ st'.groups, g ∈ st.groups ∨ st.pos ≤ g.2.1 ∧ g.2.1 ≤ g.2.2 ∧ g.2.2 ≤ st'.pos

theorem Advances.refl (st : State) : Advances st st := ⟨le_rfl, fun _ => .inl⟩

theorem Advances.trans {st'' : State} (h : Advances st st') (h' : Advances st' st'') :
    Advances st st'' := by
  have le := h.le
  have le' := h'.le
  refine ⟨by omega, fun g hg => ?_⟩
  rcases h'.groups g hg with hg | late
  · rcases h.groups g hg with hg | early
    · exact .inl hg
    · exact .inr (by omega)
  · exact .inr (by omega)

/-- What one step keeps and any number of steps in turn, the rounds of a repetition keep. -/
theorem rel_of_mem_rounds {R : State → State → Prop} (refl : ∀ st, R st st)
    (trans : ∀ {st mid st'}, R st mid → R mid st' → R st st') {step : State → List State}
    (hs : ∀ st, ∀ st' ∈ step st, R st st') {greedy : Bool} {least budget : ℕ}
    (h : st' ∈ roundOutcomes step greedy least budget st) : R st st' := by
  induction budget generalizing least st with
  | zero =>
    cases least with
    | zero => exact List.mem_singleton.1 h ▸ refl _
    | succ least => cases h
  | succ budget ih =>
    have round {least : ℕ} (h : st' ∈ (step st).flatMap fun mid =>
        if st.pos < mid.pos then roundOutcomes step greedy least budget mid else []) :
        R st st' := by
      obtain ⟨mid, first, h⟩ := List.mem_flatMap.1 h
      split at h
      · exact trans (hs st mid first) (ih h)
      · cases h
    cases least with
    | succ least => exact round h
    | zero =>
      rw [roundOutcomes] at h
      split at h
      · rcases List.mem_append.1 h with h | h
        · exact round h
        · exact List.mem_singleton.1 h ▸ refl _
      · rcases List.mem_cons.1 h with rfl | h
        · exact refl _
        · exact round h

theorem advances_of_mem_outcomes (h : st' ∈ outcomes text p st) : Advances st st' := by
  induction p generalizing st st' with
  | empty => exact List.mem_singleton.1 h ▸ Advances.refl _
  | char k =>
    obtain ⟨c, -, -, rfl⟩ := mem_outcomes_char.1 h
    exact ⟨Nat.le_succ _, fun _ => .inl⟩
  | seq a b iha ihb =>
    obtain ⟨mid, ha, hb⟩ := mem_outcomes_append.1 h
    exact (iha ha).trans (ihb hb)
  | alt a b iha ihb => exact (List.mem_append.1 h).elim iha ihb
  | rounds greedy least most a ih =>
    exact rel_of_mem_rounds .refl .trans (fun st st' => ih) h
  | group i a ih =>
    obtain ⟨mid, hm, rfl⟩ := mem_outcomes_group.1 h
    have way := ih hm
    refine ⟨way.le, fun g hg => ?_⟩
    rcases List.mem_cons.1 hg with rfl | hg
    · exact .inr ⟨le_rfl, way.le, le_rfl⟩
    · exact way.groups g hg
  | textStart => exact (mem_outcomes_textStart.1 h).2 ▸ Advances.refl _
  | textEnd => exact (mem_outcomes_textEnd.1 h).2 ▸ Advances.refl _
  | wordEdge => exact (mem_outcomes_wordEdge.1 h).2 ▸ Advances.refl _

/-! ## The match at a place -/

/-- The match at a place is the outcome that the pattern prefers. -/
theorem matchAt_eq (p : Pattern) (text : Array Char) (i : ℕ) : p.matchAt text i =
    (outcomes text p ⟨i, []⟩).head?.map fun st => ⟨i, st.pos, st.groups⟩ := by
  rw [matchAt, run_eq_findSome?]
  cases outcomes text p ⟨i, []⟩ <;> rfl

theorem exists_of_matchAt (h : p.matchAt text i = some m) :
    ∃ st ∈ outcomes text p ⟨i, []⟩, m = ⟨i, st.pos, st.groups⟩ := by
  rw [matchAt_eq] at h
  obtain ⟨st, hs, rfl⟩ := Option.map_eq_some_iff.1 h
  exact ⟨st, List.mem_of_head? hs, rfl⟩

theorem isSome_matchAt_iff :
    (p.matchAt text i).isSome = true ↔ ∃ st, st ∈ outcomes text p ⟨i, []⟩ := by
  rw [matchAt_eq, Option.isSome_map, List.isSome_head?]
  exact ⟨List.exists_mem_of_ne_nil _, fun ⟨_, h⟩ => List.ne_nil_of_mem h⟩

/-- What a match remembers lies within it. -/
theorem span_of_matchAt (h : p.matchAt text i = some m) :
    m.start = i ∧ i ≤ m.stop ∧ ∀ g ∈ m.groups, i ≤ g.2.1 ∧ g.2.1 ≤ g.2.2 ∧ g.2.2 ≤ m.stop := by
  obtain ⟨st, hs, rfl⟩ := exists_of_matchAt h
  have way := advances_of_mem_outcomes hs
  exact ⟨rfl, way.le, fun g hg => (way.groups g hg).resolve_left List.not_mem_nil⟩

/-! ## Pieces of the text -/

theorem toList_slice (text : Array Char) (i j : ℕ) :
    (slice text i j).toList = (text.toList.drop i).take (j - i) := by
  rw [slice, String.toList_ofList, Array.toList_extract]

/-- A piece stands at its place. -/
theorem slice_prefix_drop (text : Array Char) (i j : ℕ) :
    (slice text i j).toList <+: text.toList.drop i := by
  rw [toList_slice]
  exact List.take_prefix _ _

theorem slice_eq_ofList {w : List Char} (h : w <+: cs.drop i) :
    slice cs.toArray i (i + w.length) = String.ofList w := by
  rw [← String.toList_inj, toList_slice, String.toList_ofList, Nat.add_sub_cancel_left]
  exact (List.prefix_iff_eq_take.1 h).symm

theorem slice_infix {i' j' : ℕ} (hi : i ≤ i') (hj : j' ≤ j) :
    (slice text i' j').toList <:+: (slice text i j).toList := by
  rw [toList_slice, toList_slice]
  -- The inner piece begins some way into the outer one, and is a prefix of what is left there.
  have inner : (text.toList.drop i').take (j' - i') <+:
      ((text.toList.drop i).take (j - i)).drop (i' - i) := by
    rw [List.drop_take, List.drop_drop, show i + (i' - i) = i' by omega]
    exact List.take_prefix_take_left (by omega)
  exact inner.isInfix.trans (List.drop_suffix _ _).isInfix

theorem Match.exists_of_groupText? {s : String} (h : m.groupText? text n = some s) :
    ∃ g ∈ m.groups, m.group? n = some g.2 ∧ s = slice text g.2.1 g.2.2 := by
  obtain ⟨place, hg, rfl⟩ := Option.map_eq_some_iff.1 h
  obtain ⟨g, found, rfl⟩ := Option.map_eq_some_iff.1 hg
  exact ⟨g, List.mem_of_find?_eq_some found, hg, rfl⟩

/-- What a match remembers is a piece of what it matched. -/
theorem groupText?_infix_text {s : String} (hm : p.matchAt text i = some m)
    (h : m.groupText? text n = some s) : s.toList <:+: (m.text text).toList := by
  obtain ⟨g, hg, -, rfl⟩ := Match.exists_of_groupText? h
  obtain ⟨rfl, -, within⟩ := span_of_matchAt hm
  exact slice_infix (within g hg).1 (within g hg).2.2

/-! ## All matches -/

/-- The match that is found first begins at the first place where there is one. -/
theorem findFrom_eq_some (h : p.findFrom text n i = some m) :
    i ≤ m.start ∧ m.start ≤ i + n ∧ p.matchAt text m.start = some m ∧
      ∀ j, i ≤ j → j < m.start → p.matchAt text j = none := by
  induction n generalizing i with
  | zero =>
    obtain ⟨rfl, -⟩ := span_of_matchAt h
    exact ⟨le_rfl, le_rfl, h, fun j hj lt => absurd lt (by omega)⟩
  | succ n ih =>
    rw [findFrom] at h
    split at h
    · next m' here =>
      obtain rfl := Option.some.inj h
      obtain ⟨rfl, -⟩ := span_of_matchAt here
      exact ⟨le_rfl, by omega, here, fun j hj lt => absurd lt (by omega)⟩
    · next here =>
      obtain ⟨le, le', found, before⟩ := ih h
      refine ⟨by omega, by omega, found, fun j hj lt => ?_⟩
      by_cases same : j = i
      · exact same ▸ here
      · exact before j (by omega) lt

theorem findFrom_eq_none (h : p.findFrom text n i = none) (hj : i ≤ j) (hn : j ≤ i + n) :
    p.matchAt text j = none := by
  induction n generalizing i with
  | zero =>
    obtain rfl : j = i := by omega
    exact h
  | succ n ih =>
    rw [findFrom] at h
    split at h
    · cases h
    · next here =>
      by_cases same : j = i
      · exact same ▸ here
      · exact ih h (by omega) (by omega)

theorem of_mem_matchesFrom (h : m ∈ p.matchesFrom text fuel i) :
    i ≤ m.start ∧ p.matchAt text m.start = some m := by
  induction fuel generalizing i with
  | zero => cases h
  | succ fuel ih =>
    rw [matchesFrom] at h
    split at h
    · cases h
    · next first found =>
      obtain ⟨le, -, here, -⟩ := findFrom_eq_some found
      rcases List.mem_cons.1 h with rfl | h
      · exact ⟨le, here⟩
      · obtain ⟨le', there⟩ := ih h
        exact ⟨by omega, there⟩

theorem matchAt_of_mem_allMatches (h : m ∈ p.allMatches text) :
    p.matchAt text m.start = some m :=
  (of_mem_matchesFrom h).2

/-- Matches are found from left to right. -/
theorem pairwise_start_matchesFrom :
    (p.matchesFrom text fuel i).Pairwise fun m m' => m.start < m'.start := by
  induction fuel generalizing i with
  | zero => exact .nil
  | succ fuel ih =>
    rw [matchesFrom]
    split
    · exact .nil
    · refine .cons (fun m' hm => ?_) ih
      have := (of_mem_matchesFrom hm).1
      omega

theorem pairwise_start_allMatches (p : Pattern) (text : Array Char) :
    (p.allMatches text).Pairwise fun m m' => m.start < m'.start :=
  pairwise_start_matchesFrom

/-- A place where the pattern matches is left out only if another match covers it. -/
theorem mem_or_covered (hf : text.size < i + fuel) (hm : p.matchAt text j = some m) (hi : i ≤ j)
    (hj : j ≤ text.size) :
    m ∈ p.matchesFrom text fuel i ∨
      ∃ m' ∈ p.matchesFrom text fuel i, m'.start < j ∧ j < m'.stop := by
  induction fuel generalizing i with
  | zero => omega
  | succ fuel ih =>
    rw [matchesFrom]
    split
    · next none =>
      rw [findFrom_eq_none none hi (by omega)] at hm
      cases hm
    · next first found =>
      obtain ⟨le, -, here, before⟩ := findFrom_eq_some found
      by_cases later : max first.stop (first.start + 1) ≤ j
      · rcases ih (by omega) later with h | ⟨m', h, covers⟩
        · exact .inl (List.mem_cons_of_mem _ h)
        · exact .inr ⟨m', List.mem_cons_of_mem _ h, covers⟩
      · -- The place is not before the first match, so it is its start, or lies within it.
        have reached : first.start ≤ j := by
          by_contra lt
          rw [before j hi (by omega)] at hm
          cases hm
        by_cases same : first.start = j
        · rw [same, hm] at here
          exact .inl (Option.some.inj here ▸ List.mem_cons_self)
        · exact .inr ⟨first, List.mem_cons_self, by omega, by omega⟩

/-- Where no match begins inside of another one, all of them are found. -/
theorem mem_allMatches
    (apart : ∀ i m, p.matchAt text i = some m → ∀ j, i < j → j < m.stop → p.matchAt text j = none)
    (hm : p.matchAt text j = some m) (hj : j ≤ text.size) : m ∈ p.allMatches text := by
  apply (mem_or_covered (by omega) hm (Nat.zero_le j) hj).resolve_right
  rintro ⟨m', found, lt, lt'⟩
  rw [apart _ m' (matchAt_of_mem_allMatches found) j lt lt'] at hm
  cases hm

/-! ## The first character -/

/-- The class of the character that a pattern begins with, where it is known. -/
def head? : Pattern → Option CharClass
  | .char k => some k
  | .seq .wordEdge b => b.head?
  | .seq a _ => a.head?
  | .group _ a => a.head?
  | _ => none

theorem head_of_mem_outcomes {k : CharClass} (hk : p.head? = some k)
    (h : st' ∈ outcomes text p st) : ∃ c, text[st.pos]? = some c ∧ k.holds c = true := by
  fun_induction head? p generalizing st st' with
  | case1 k' =>
    obtain rfl := Option.some.inj hk
    obtain ⟨c, hc, holds, -⟩ := mem_outcomes_char.1 h
    exact ⟨c, hc, holds⟩
  | case2 b ih =>
    obtain ⟨mid, edge, h⟩ := mem_outcomes_append.1 h
    exact ih hk ((mem_outcomes_wordEdge.1 edge).2 ▸ h)
  | case3 a b _ ih =>
    obtain ⟨mid, ha, -⟩ := mem_outcomes_append.1 h
    exact ih hk ha
  | case4 g a ih =>
    obtain ⟨mid, ha, -⟩ := mem_outcomes_group.1 h
    exact ih hk ha
  | case5 => cases hk

/-- A match begins with a character of the class that its pattern begins with. -/
theorem head_of_matchAt {k : CharClass} (hk : p.head? = some k) (h : p.matchAt text i = some m) :
    ∃ c, text[i]? = some c ∧ k.holds c = true := by
  obtain ⟨st, hs, -⟩ := exists_of_matchAt h
  exact head_of_mem_outcomes hk hs

/-! ## Patterns that remember nothing -/

/-- Whether the pattern has no anchors and remembers nothing. -/
def isBare : Pattern → Bool
  | .empty | .char _ => true
  | .seq a b | .alt a b => a.isBare && b.isBare
  | .rounds _ _ _ a => a.isBare
  | .group _ _ | .textStart | .textEnd | .wordEdge => false

theorem isPlain_of_isBare (hp : p.isBare = true) : p.isPlain = true := by
  induction p with
  | empty | char k => rfl
  | seq a b iha ihb | alt a b iha ihb =>
    obtain ⟨ha, hb⟩ := Bool.and_eq_true_iff.1 hp
    exact Bool.and_eq_true_iff.2 ⟨iha ha, ihb hb⟩
  | rounds greedy least most a ih => exact ih hp
  | group g a ih => cases hp
  | textStart | textEnd | wordEdge => cases hp

theorem groups_of_mem_outcomes (hp : p.isBare = true) (h : st' ∈ outcomes text p st) :
    st'.groups = st.groups := by
  induction p generalizing st st' with
  | empty => rw [List.mem_singleton.1 h]
  | char k =>
    obtain ⟨c, -, -, rfl⟩ := mem_outcomes_char.1 h
    rfl
  | seq a b iha ihb =>
    obtain ⟨hpa, hpb⟩ := Bool.and_eq_true_iff.1 hp
    obtain ⟨mid, ha, hb⟩ := mem_outcomes_append.1 h
    exact (ihb hpb hb).trans (iha hpa ha)
  | alt a b iha ihb =>
    obtain ⟨hpa, hpb⟩ := Bool.and_eq_true_iff.1 hp
    exact (List.mem_append.1 h).elim (iha hpa) (ihb hpb)
  | rounds greedy least most a ih =>
    exact rel_of_mem_rounds (R := fun st st' => st'.groups = st.groups) (fun _ => rfl)
      (fun h h' => h'.trans h) (fun st st' => ih hp) h
  | group g a ih => cases hp
  | textStart | textEnd | wordEdge => cases hp

/-- A pattern that remembers nothing takes a word of its language, and no more. -/
theorem mem_outcomes_iff_of_isBare (hp : p.isBare = true) : st' ∈ outcomes cs.toArray p st ↔
    ∃ w ∈ p.language, w <+: cs.drop st.pos ∧ st' = ⟨st.pos + w.length, st.groups⟩ := by
  have ends (j : ℕ) : (∃ st' ∈ outcomes cs.toArray p st, st'.pos = j) ↔
      Takes p.language cs st.pos j :=
    exists_outcome_iff (isPlain_of_isBare hp)
  constructor
  · intro h
    obtain ⟨w, hw, stands, pos⟩ := (ends st'.pos).1 ⟨st', h, rfl⟩
    refine ⟨w, hw, stands, ?_⟩
    rw [State.mk.injEq]
    exact ⟨pos, groups_of_mem_outcomes hp h⟩
  · rintro ⟨w, hw, stands, rfl⟩
    obtain ⟨mid, hm, pos⟩ := (ends (st.pos + w.length)).2 ⟨w, hw, stands, rfl⟩
    rwa [← pos, ← groups_of_mem_outcomes hp hm]

theorem isBare_text (s : String) : (Pattern.text s).isBare = true := by
  unfold Pattern.text
  induction s.toList with
  | nil => rfl
  | cons c rest ih => exact ih

theorem mem_outcomes_text {s : String} : st' ∈ outcomes cs.toArray (Pattern.text s) st ↔
    s.toList <+: cs.drop st.pos ∧ st' = ⟨st.pos + s.toList.length, st.groups⟩ := by
  simp only [mem_outcomes_iff_of_isBare (isBare_text s), mem_language_text, exists_eq_left]

theorem mem_outcomes_of_stands (hp : p.isBare = true) {w : List Char} (hw : w ∈ p.language)
    (stands : w <+: cs.drop i) (groups : List (ℕ × ℕ × ℕ)) :
    ⟨i + w.length, groups⟩ ∈ outcomes cs.toArray p ⟨i, groups⟩ :=
  (mem_outcomes_iff_of_isBare hp).2 ⟨w, hw, stands, rfl⟩

end ApiAccord.Pattern
