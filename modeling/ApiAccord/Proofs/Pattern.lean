import ApiAccord.Pattern.Basic
import Mathlib.Computability.Language

/-!
# What patterns match

A pattern without anchors looks at nothing but the piece of text that it matches, so it has a
language: the pieces that it may match.  Its outcomes from a place are then the ends of the pieces
of its language that begin there (`exists_outcome_iff`), and it matches a whole text exactly if that
is in its language (`matchesAll_iff`).  Between the anchors of a text, a line feed at the end may be
left over (`matchAt_anchored_iff`).
-/

namespace ApiAccord.Pattern

variable {p : Pattern} {k : CharClass} {cs w : List Char} {L M : Language Char} {st : State}
  {i j n : ℕ}

/-! ## Languages -/

/-- Whether the pattern has no anchors. -/
def isPlain : Pattern → Bool
  | .empty | .char _ => true
  | .seq a b | .alt a b => a.isPlain && b.isPlain
  | .rounds _ _ _ a | .group _ a => a.isPlain
  | .textStart | .textEnd | .wordEdge => false

/-- The words of a language that are not empty. -/
def proper (L : Language Char) : Language Char := {w | w ∈ L ∧ w ≠ []}

/-- The pieces of text that a pattern without anchors may match. -/
def language : Pattern → Language Char
  | .empty => 1
  | .char k => {w | ∃ c, w = [c] ∧ k.holds c = true}
  | .seq a b => a.language * b.language
  | .alt a b => a.language + b.language
  | .rounds _ least most a =>
    {w | ∃ n, least ≤ n ∧ (∀ m, most = some m → n ≤ m) ∧ w ∈ proper a.language ^ n}
  | .group _ a => a.language
  | .textStart | .textEnd | .wordEdge => 0

theorem mem_proper : w ∈ proper L ↔ w ∈ L ∧ w ≠ [] := Iff.rfl

theorem mem_language_char : w ∈ (Pattern.char k).language ↔ ∃ c, w = [c] ∧ k.holds c = true :=
  Iff.rfl

theorem mem_language_rounds {greedy : Bool} {least : ℕ} {most : Option ℕ} :
    w ∈ (Pattern.rounds greedy least most p).language ↔
      ∃ n, least ≤ n ∧ (∀ m, most = some m → n ≤ m) ∧ w ∈ proper p.language ^ n :=
  Iff.rfl

theorem le_length_of_mem_pow (h : w ∈ proper L ^ n) : n ≤ w.length := by
  induction n generalizing w with
  | zero => exact Nat.zero_le _
  | succ n ih =>
    rw [pow_succ'] at h
    obtain ⟨u, hu, v, hv, rfl⟩ := Language.mem_mul.1 h
    have first := List.length_pos_iff.2 (mem_proper.1 hu).2
    have rest := ih hv
    rw [List.length_append]
    omega

/-! ## Places in a text -/

/-- From place `i` of the text to place `j` stands a word of the language. -/
def Takes (L : Language Char) (cs : List Char) (i j : ℕ) : Prop :=
  ∃ w ∈ L, w <+: cs.drop i ∧ j = i + w.length

theorem takes_one : Takes 1 cs i j ↔ j = i := by
  simp [Takes, Language.mem_one]

theorem takes_add : Takes (L + M) cs i j ↔ Takes L cs i j ∨ Takes M cs i j := by
  simp only [Takes, Language.mem_add, or_and_right, exists_or]

theorem append_prefix_iff {u v l : List Char} :
    u ++ v <+: l ↔ u <+: l ∧ v <+: l.drop u.length := by
  constructor
  · rintro ⟨rest, rfl⟩
    refine ⟨⟨v ++ rest, by simp⟩, ⟨rest, ?_⟩⟩
    rw [List.append_assoc, List.drop_left]
  · rintro ⟨⟨rest, rfl⟩, hv⟩
    rw [List.drop_left] at hv
    exact (List.prefix_append_right_inj u).2 hv

theorem takes_mul : Takes (L * M) cs i j ↔ ∃ k, Takes L cs i k ∧ Takes M cs k j := by
  constructor
  · rintro ⟨w, hw, hp, rfl⟩
    obtain ⟨u, hu, v, hv, rfl⟩ := Language.mem_mul.1 hw
    obtain ⟨hup, hvp⟩ := append_prefix_iff.1 hp
    rw [List.drop_drop] at hvp
    exact ⟨_, ⟨u, hu, hup, rfl⟩, v, hv, hvp, by rw [List.length_append, Nat.add_assoc]⟩
  · rintro ⟨_, ⟨u, hu, hup, rfl⟩, v, hv, hvp, rfl⟩
    rw [← List.drop_drop] at hvp
    exact ⟨u ++ v, Language.mem_mul.2 ⟨u, hu, v, hv, rfl⟩, append_prefix_iff.2 ⟨hup, hvp⟩,
      by rw [List.length_append, Nat.add_assoc]⟩

theorem takes_proper : Takes (proper L) cs i j ↔ Takes L cs i j ∧ i < j := by
  constructor
  · rintro ⟨w, ⟨hw, ne⟩, hp, rfl⟩
    exact ⟨⟨w, hw, hp, rfl⟩, Nat.lt_add_of_pos_right (List.length_pos_iff.2 ne)⟩
  · rintro ⟨⟨w, hw, hp, rfl⟩, lt⟩
    exact ⟨w, ⟨hw, List.length_pos_iff.1 (by omega)⟩, hp, rfl⟩

/-- There is room for a word of each round. -/
theorem le_of_takes_pow (h : Takes (proper L ^ n) cs i j) : n ≤ cs.length - i := by
  obtain ⟨w, hw, hp, -⟩ := h
  have fits := hp.length_le
  rw [List.length_drop] at fits
  exact (le_length_of_mem_pow hw).trans fits

theorem takes_char_iff :
    Takes (Pattern.char k).language cs i j ↔
      ∃ c, cs[i]? = some c ∧ k.holds c = true ∧ j = i + 1 := by
  constructor
  · rintro ⟨_, ⟨c, rfl, hc⟩, ⟨rest, hp⟩, rfl⟩
    refine ⟨c, ?_, hc, rfl⟩
    rw [← List.head?_drop, ← hp]
    rfl
  · rintro ⟨c, hi, hc, rfl⟩
    rw [← List.head?_drop] at hi
    obtain ⟨rest, hr⟩ := List.head?_eq_some_iff.1 hi
    exact ⟨[c], ⟨c, rfl, hc⟩, ⟨rest, hr.symm⟩, rfl⟩

/-! ## Outcomes -/

/-- One round more is a word that is not empty, and then the rounds that are left. -/
theorem exists_next_round_iff {after left : State → List State} {bound : ℕ → Prop}
    (h : ∀ st j, (∃ st' ∈ after st, st'.pos = j) ↔ Takes L cs st.pos j)
    (hleft : ∀ st j, (∃ st' ∈ left st, st'.pos = j) ↔
      ∃ n, bound n ∧ Takes (proper L ^ n) cs st.pos j) (st : State) (j : ℕ) :
    (∃ st' ∈ (after st).flatMap (fun st' => if st.pos < st'.pos then left st' else []),
        st'.pos = j) ↔
      ∃ n, bound n ∧ Takes (proper L ^ (n + 1)) cs st.pos j := by
  simp only [List.mem_flatMap, pow_succ', takes_mul, takes_proper, ← h]
  constructor
  · rintro ⟨st'', ⟨st', hs, hr⟩, hj⟩
    split at hr
    · next lt =>
      obtain ⟨n, hb, ht⟩ := (hleft st' j).1 ⟨st'', hr, hj⟩
      exact ⟨n, hb, st'.pos, ⟨⟨st', hs, rfl⟩, lt⟩, ht⟩
    · cases hr
  · rintro ⟨n, hb, _, ⟨⟨st', hs, rfl⟩, lt⟩, ht⟩
    obtain ⟨st'', hr, hj⟩ := (hleft st' j).2 ⟨n, hb, ht⟩
    exact ⟨st'', ⟨st', hs, by rwa [if_pos lt]⟩, hj⟩

/-- The rounds of a repetition go on from piece to piece of a language. -/
theorem exists_round_iff {after : State → List State}
    (h : ∀ st j, (∃ st' ∈ after st, st'.pos = j) ↔ Takes L cs st.pos j) (greedy : Bool)
    (least budget : ℕ) (st : State) (j : ℕ) :
    (∃ st' ∈ roundOutcomes after greedy least budget st, st'.pos = j) ↔
      ∃ n, (least ≤ n ∧ n ≤ budget) ∧ Takes (proper L ^ n) cs st.pos j := by
  induction budget generalizing least st j with
  | zero =>
    cases least with
    | zero => simp [roundOutcomes, takes_one, eq_comm]
    | succ least =>
      simp only [roundOutcomes, List.not_mem_nil, false_and, exists_false, false_iff]
      rintro ⟨n, ⟨hl, hb⟩, -⟩
      omega
  | succ budget ih =>
    have round (least : ℕ) := exists_next_round_iff h (ih least) st j
    cases least with
    | succ least =>
      refine (round least).trans ⟨?_, ?_⟩
      · rintro ⟨n, ⟨hl, hb⟩, ht⟩
        exact ⟨n + 1, by omega, ht⟩
      · rintro ⟨n, ⟨hl, hb⟩, ht⟩
        obtain ⟨n, rfl⟩ : ∃ m, n = m + 1 := ⟨n - 1, by omega⟩
        exact ⟨n, by omega, ht⟩
    | zero =>
      have here : (∃ st' ∈ roundOutcomes after greedy 0 (budget + 1) st, st'.pos = j) ↔
          (∃ st' ∈ (after st).flatMap (fun st' => if st.pos < st'.pos then
            roundOutcomes after greedy 0 budget st' else []), st'.pos = j) ∨ st.pos = j := by
        cases greedy
        · simp only [roundOutcomes, Bool.false_eq_true, if_false, List.mem_cons, or_and_right,
            exists_or, exists_eq_left, or_comm]
        · simp only [roundOutcomes, if_true, List.mem_append, List.mem_singleton, or_and_right,
            exists_or, exists_eq_left]
      rw [here, round 0]
      constructor
      · rintro (⟨n, ⟨-, hb⟩, ht⟩ | rfl)
        · exact ⟨n + 1, by omega, ht⟩
        · exact ⟨0, by omega, takes_one.2 rfl⟩
      · rintro ⟨n, ⟨-, hb⟩, ht⟩
        cases n with
        | zero => exact .inr (takes_one.1 ht).symm
        | succ n => exact .inl ⟨n, by omega, ht⟩

theorem le_budget_iff {most : Option ℕ} :
    n ≤ budget cs.toArray most i ↔ (∀ m, most = some m → n ≤ m) ∧ n ≤ cs.length - i := by
  cases most <;> simp [budget]

/-- A pattern without anchors gets to the ends of the pieces of its language. -/
theorem exists_outcome_iff (hp : p.isPlain = true) :
    (∃ st' ∈ outcomes cs.toArray p st, st'.pos = j) ↔ Takes p.language cs st.pos j := by
  induction p generalizing st j with
  | empty => simp [outcomes, language, takes_one, eq_comm]
  | char k =>
    simp only [outcomes, takes_char_iff, List.getElem?_toArray]
    cases cs[st.pos]? with
    | none => simp
    | some d => by_cases h : k.holds d = true <;> simp [h, @eq_comm _ j]
  | seq a b iha ihb =>
    obtain ⟨ha, hb⟩ := Bool.and_eq_true_iff.1 hp
    simp only [outcomes, language, takes_mul, List.mem_flatMap, ← iha ha]
    constructor
    · rintro ⟨st', ⟨mid, hm, hs⟩, hj⟩
      exact ⟨mid.pos, ⟨mid, hm, rfl⟩, (ihb hb).1 ⟨st', hs, hj⟩⟩
    · rintro ⟨_, ⟨mid, hm, rfl⟩, ht⟩
      obtain ⟨st', hs, hj⟩ := (ihb hb).2 ht
      exact ⟨st', ⟨mid, hm, hs⟩, hj⟩
  | alt a b iha ihb =>
    obtain ⟨ha, hb⟩ := Bool.and_eq_true_iff.1 hp
    simp only [outcomes, language, takes_add, List.mem_append, or_and_right, exists_or, iha ha,
      ihb hb]
  | rounds greedy least most a ih =>
    rw [outcomes, exists_round_iff (fun st j => ih hp) greedy least _ st j]
    constructor
    · rintro ⟨n, ⟨hl, hb⟩, w, hw, htw⟩
      exact ⟨w, ⟨n, hl, (le_budget_iff.1 hb).1, hw⟩, htw⟩
    · rintro ⟨w, ⟨n, hl, hm, hw⟩, htw⟩
      exact ⟨n, ⟨hl, le_budget_iff.2 ⟨hm, le_of_takes_pow ⟨w, hw, htw⟩⟩⟩, w, hw, htw⟩
  | group g a ih =>
    rw [language, ← ih hp]
    simp [outcomes]
  | textStart => cases hp
  | textEnd => cases hp
  | wordEdge => cases hp

/-- A pattern without anchors matches the texts of its language. -/
theorem matchesAll_iff (hp : p.isPlain = true) :
    p.matchesAll cs.toArray = true ↔ cs ∈ p.language := by
  have ends : p.matchesAll cs.toArray = true ↔
      ∃ st' ∈ outcomes cs.toArray p ⟨0, []⟩, st'.pos = cs.length := by
    simp [matchesAll, run_eq_findSome?, List.findSome?_isSome_iff]
  rw [ends, exists_outcome_iff hp]
  constructor
  · rintro ⟨w, hw, hpre, hl⟩
    rw [List.drop_zero] at hpre
    rw [Nat.zero_add] at hl
    exact hpre.eq_of_length hl.symm ▸ hw
  · exact fun h => ⟨cs, h, List.prefix_rfl, (Nat.zero_add _).symm⟩

/-- Between the anchors, a line feed at the end may be left over. -/
theorem matchAt_anchored_iff (hp : p.isPlain = true) :
    ((Pattern.textStart ++ p ++ Pattern.textEnd).matchAt cs.toArray 0).isSome = true ↔
      cs ∈ p.language ∨ ∃ w ∈ p.language, cs = w ++ ['\n'] := by
  have ends : ((Pattern.textStart ++ p ++ Pattern.textEnd).matchAt cs.toArray 0).isSome = true ↔
      ∃ j, (∃ st' ∈ outcomes cs.toArray p ⟨0, []⟩, st'.pos = j) ∧
        isTextEnd cs.toArray j = true := by
    show (matchAt (.seq (.seq .textStart p) .textEnd) cs.toArray 0).isSome = true ↔ _
    simp only [matchAt, run_eq_findSome?, outcomes, beq_self_eq_true, if_true,
      List.flatMap_cons, List.flatMap_nil, List.append_nil, List.findSome?_isSome_iff,
      List.mem_flatMap, Option.isSome_some, and_true]
    constructor
    · rintro ⟨st', mid, hm, hs⟩
      split at hs
      · next he => exact ⟨mid.pos, ⟨mid, hm, rfl⟩, he⟩
      · cases hs
    · rintro ⟨_, ⟨mid, hm, rfl⟩, he⟩
      exact ⟨mid, mid, hm, by rw [if_pos he]; exact List.mem_singleton_self _⟩
  rw [ends]
  simp only [exists_outcome_iff hp, isTextEnd, Takes, List.drop_zero, Nat.zero_add,
    List.size_toArray, List.getElem?_toArray, Bool.or_eq_true, Bool.and_eq_true, beq_iff_eq]
  constructor
  · rintro ⟨_, ⟨w, hw, ⟨rest, rfl⟩, rfl⟩, he | ⟨hl, hc⟩⟩
    · obtain rfl : rest = [] := List.length_eq_zero_iff.1 (by simpa using he)
      exact .inl (by simpa using hw)
    · obtain ⟨c, rfl⟩ := List.length_eq_one_iff.1 (by simpa using hl.symm)
      rw [List.getElem?_concat_length, Option.some.injEq] at hc
      exact .inr ⟨w, hw, by rw [hc]⟩
  · rintro (h | ⟨w, hw, rfl⟩)
    · exact ⟨_, ⟨cs, h, List.prefix_rfl, rfl⟩, .inl rfl⟩
    · exact ⟨_, ⟨w, hw, List.prefix_append _ _, rfl⟩, .inr ⟨by simp, by simp⟩⟩

/-! ## The languages of written patterns -/

@[simp]
theorem language_append (p q : Pattern) : (p ++ q).language = p.language * q.language := rfl

@[simp]
theorem isPlain_append (p q : Pattern) : (p ++ q).isPlain = (p.isPlain && q.isPlain) := rfl

theorem mem_language_text {s : String} : w ∈ (text s).language ↔ w = s.toList := by
  unfold text
  induction s.toList generalizing w with
  | nil => exact Language.mem_one w
  | cons c rest ih =>
    rw [List.foldr_cons, language, Language.mem_mul]
    constructor
    · rintro ⟨_, ⟨d, rfl, hd⟩, v, hv, rfl⟩
      rw [ih.1 hv, beq_iff_eq.1 hd]
      rfl
    · rintro rfl
      exact ⟨[c], ⟨c, rfl, beq_self_eq_true c⟩, rest, ih.2 rfl, rfl⟩

@[simp]
theorem isPlain_text (s : String) : (text s).isPlain = true := by
  unfold text
  induction s.toList with
  | nil => rfl
  | cons c rest ih => exact ih

theorem mem_language_anyCaseText {s : String} : w ∈ (anyCaseText s).language ↔
    List.Forall₂ (fun c d => (CharClass.anyCase c).holds d = true) s.toList w := by
  unfold anyCaseText
  induction s.toList generalizing w with
  | nil => rw [List.forall₂_nil_left_iff]; exact Language.mem_one w
  | cons c rest ih =>
    rw [List.foldr_cons, language, Language.mem_mul, List.forall₂_cons_left_iff]
    constructor
    · rintro ⟨_, ⟨d, rfl, hd⟩, v, hv, rfl⟩
      exact ⟨d, v, hd, ih.1 hv, rfl⟩
    · rintro ⟨d, v, hd, hv, rfl⟩
      exact ⟨[d], ⟨d, rfl, hd⟩, v, ih.2 hv, rfl⟩

theorem mem_language_firstOf {ps : List Pattern} :
    w ∈ (firstOf ps).language ↔ ∃ p ∈ ps, w ∈ p.language := by
  fun_induction firstOf ps with
  | case1 => simp [mem_language_char, CharClass.holds]
  | case2 p => simp
  | case3 p ps _ ih => rw [language, Language.mem_add, ih, List.exists_mem_cons_iff]

theorem mem_language_text_mul {s : String} :
    w ∈ (text s).language * L ↔ ∃ v ∈ L, w = s.toList ++ v := by
  rw [Language.mem_mul]
  constructor
  · rintro ⟨u, hu, v, hv, rfl⟩
    exact ⟨v, hv, by rw [mem_language_text.1 hu]⟩
  · rintro ⟨v, hv, rfl⟩
    exact ⟨_, mem_language_text.2 rfl, v, hv, rfl⟩

theorem mem_language_mul_text {s : String} :
    w ∈ L * (text s).language ↔ ∃ v ∈ L, w = v ++ s.toList := by
  rw [Language.mem_mul]
  constructor
  · rintro ⟨v, hv, u, hu, rfl⟩
    exact ⟨v, hv, by rw [mem_language_text.1 hu]⟩
  · rintro ⟨v, hv, rfl⟩
    exact ⟨v, hv, _, mem_language_text.2 rfl, rfl⟩

theorem joinedBy_cons_cons (sep p q : Pattern) (ps : List Pattern) :
    joinedBy sep (p :: q :: ps) = .seq p (.seq sep (joinedBy sep (q :: ps))) := rfl

/-- Patterns with a text between them match pieces with that text between them. -/
theorem mem_language_joinedBy {sep : String} {ps : List Pattern} :
    w ∈ (joinedBy (text sep) ps).language ↔ ∃ pieces,
      List.Forall₂ (fun p piece => piece ∈ p.language) ps pieces ∧
        w = sep.toList.intercalate pieces := by
  induction ps generalizing w with
  | nil => simp [joinedBy, language, Language.mem_one]
  | cons p rest ih =>
    cases rest with
    | nil => simp [joinedBy, List.forall₂_cons_left_iff]
    | cons q rest =>
      rw [joinedBy_cons_cons, language, language, Language.mem_mul]
      simp only [mem_language_text_mul, ih, List.forall₂_cons_left_iff]
      constructor
      · rintro ⟨u, hu, _, ⟨_, ⟨_, ⟨v, pieces, hv, each, rfl⟩, rfl⟩, rfl⟩, rfl⟩
        refine ⟨u :: v :: pieces, ⟨u, _, hu, ⟨v, pieces, hv, each, rfl⟩, rfl⟩, ?_⟩
        rw [List.intercalate_cons_cons, List.append_assoc]
      · rintro ⟨_, ⟨u, _, hu, ⟨v, pieces, hv, each, rfl⟩, rfl⟩, rfl⟩
        refine ⟨u, hu, _, ⟨_, ⟨v :: pieces, ⟨v, pieces, hv, each, rfl⟩, rfl⟩, rfl⟩, ?_⟩
        rw [List.intercalate_cons_cons, List.append_assoc]

theorem isPlain_joinedBy {sep : String} {ps : List Pattern} (h : ∀ p ∈ ps, p.isPlain = true) :
    (joinedBy (text sep) ps).isPlain = true := by
  fun_induction joinedBy (text sep) ps with
  | case1 => rfl
  | case2 p => exact h p List.mem_cons_self
  | case3 p ps _ ih =>
    rw [isPlain, isPlain, h p List.mem_cons_self, isPlain_text,
      ih fun q hq => h q (List.mem_cons_of_mem _ hq)]
    rfl

theorem mem_pow_char :
    w ∈ proper (Pattern.char k).language ^ n ↔ w.length = n ∧ ∀ c ∈ w, k.holds c = true := by
  induction n generalizing w with
  | zero => simp +contextual [Language.mem_one]
  | succ n ih =>
    rw [pow_succ', Language.mem_mul]
    constructor
    · rintro ⟨_, ⟨⟨c, rfl, hc⟩, -⟩, v, hv, rfl⟩
      obtain ⟨hl, hv⟩ := ih.1 hv
      exact ⟨congrArg (· + 1) hl, List.forall_mem_cons.2 ⟨hc, hv⟩⟩
    · rintro ⟨hl, hw⟩
      obtain ⟨c, v, rfl⟩ := List.exists_cons_of_length_eq_add_one hl
      obtain ⟨hc, hv⟩ := List.forall_mem_cons.1 hw
      exact ⟨[c], ⟨⟨c, rfl, hc⟩, List.cons_ne_nil _ _⟩, v, ih.2 ⟨Nat.succ.inj hl, hv⟩, rfl⟩

theorem mem_language_star_char :
    w ∈ (star (.char k)).language ↔ ∀ c ∈ w, k.holds c = true := by
  rw [star, mem_language_rounds]
  simp [mem_pow_char]

theorem mem_language_plus_char :
    w ∈ (plus (.char k)).language ↔ w ≠ [] ∧ ∀ c ∈ w, k.holds c = true := by
  rw [plus, mem_language_rounds, ← List.length_pos_iff]
  simp [mem_pow_char, Nat.succ_le_iff]

theorem mem_language_opt : w ∈ (opt p).language ↔ w = [] ∨ w ∈ p.language := by
  rw [opt, mem_language_rounds]
  constructor
  · rintro ⟨n, -, hn, hw⟩
    obtain rfl | rfl : n = 0 ∨ n = 1 := by have := hn 1 rfl; omega
    · exact .inl ((Language.mem_one _).1 hw)
    · rw [pow_one] at hw
      exact .inr (mem_proper.1 hw).1
  · rintro h
    by_cases ne : w = []
    · exact ⟨0, le_rfl, by simp, ne ▸ (Language.mem_one _).2 rfl⟩
    · refine ⟨1, by omega, by simp, ?_⟩
      rw [pow_one]
      exact ⟨h.resolve_left ne, ne⟩

theorem holds_anyOf (s : String) (c : Char) :
    (CharClass.anyOf s).holds c = true ↔ c ∈ s.toList := by
  unfold CharClass.anyOf
  induction s.toList with
  | nil => simp [CharClass.holds]
  | cons d rest ih => simp [CharClass.holds, ih, @eq_comm _ c]

theorem holds_noneOf (s : String) (c : Char) :
    (CharClass.noneOf s).holds c = true ↔ c ∉ s.toList := by
  rw [← holds_anyOf]
  simp [CharClass.noneOf, CharClass.holds]

end ApiAccord.Pattern
