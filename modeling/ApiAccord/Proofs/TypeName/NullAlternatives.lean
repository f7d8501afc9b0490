import ApiAccord.TypeName
import ApiAccord.Proofs.Pattern.Removal
import ApiAccord.Proofs.Text

/-!
# Alternatives that are null

A type may name null among its alternatives: a bar and a word for null, with blanks before both
(`IsTail`).  `afterTail?` reads such an alternative off the start of a text, and finds what the
pattern `nullableTail` does (`readBy_nullableTail`).  So it is known what the pattern leaves of a
type that goes on: one more alternative is dropped (`leftBy_append_tail`), and a question mark stays
(`leftBy_append_questionMark`).
-/

namespace ApiAccord.TypeName

open Pattern (ReadBy leftBy)
open Text (isBlank isWord)

/-! ## Null alternatives -/

/-- What follows a word at the start of a text, if it ends there. -/
def afterWord? : (word cs : List Char) → Option (List Char)
  | [], cs => if cs.head?.any isWord then none else some cs
  | c :: word, d :: cs => if c = d then afterWord? word cs else none
  | _ :: _, [] => none

/-- The words for null. -/
def nullWords : List (List Char) := ["None".toList, "null".toList, "undefined".toList]

/-- What follows a word for null at the start of a text. -/
def afterNull? (cs : List Char) : Option (List Char) := nullWords.findSome? (afterWord? · cs)

/-- What follows an alternative that is null at the start of a text. -/
def afterTail? (cs : List Char) : Option (List Char) :=
  match cs.dropWhile isBlank with
  | '|' :: rest => afterNull? (rest.dropWhile isBlank)
  | _ => none

/-- An alternative that is null: a bar and a word for null, with blanks before both. -/
def IsTail (w : List Char) : Prop :=
  ∃ b b' word, (∀ c ∈ b, isBlank c = true) ∧ (∀ c ∈ b', isBlank c = true) ∧ word ∈ nullWords ∧
    w = b ++ '|' :: (b' ++ word)

variable {c d : Char} {cs rest rest' tail word word' w : List Char} {i : ℕ} {st : Pattern.State}

theorem afterWord?_eq_some_iff : afterWord? word cs = some rest ↔
    cs = word ++ rest ∧ rest.head?.any isWord = false := by
  fun_induction afterWord? word cs with
  | case1 cs h =>
    simp only [List.nil_append, reduceCtorEq, false_iff, not_and]
    rintro rfl
    simp [h]
  | case2 cs h =>
    rw [Option.some.injEq, List.nil_append]
    constructor
    · rintro rfl
      exact ⟨rfl, Bool.eq_false_iff.2 h⟩
    · exact And.left
  | case3 word d cs ih => simp [ih]
  | case4 c word d cs h => simp [Ne.symm h]
  | case5 => simp

theorem ne_nil_of_nullWord (hw : word ∈ nullWords) : word ≠ [] := by
  revert word
  decide

theorem isWord_of_nullWord (hw : word ∈ nullWords) (hc : c ∈ word) : isWord c = true := by
  have letters : ∀ word ∈ nullWords, word.all isWord = true := by decide
  exact List.all_eq_true.1 (letters word hw) c hc

/-- A text begins with no more than one of the words. -/
theorem nullWord_unique (hw : word ∈ nullWords) (hw' : word' ∈ nullWords)
    (h : word ++ rest = word' ++ rest') : word = word' := by
  have heads : ∀ v ∈ nullWords, ∀ v' ∈ nullWords, v.head? = v'.head? → v = v' := by decide
  refine heads word hw word' hw' ?_
  rw [← List.head?_append_of_ne_nil word (ne_nil_of_nullWord hw), h,
    List.head?_append_of_ne_nil word' (ne_nil_of_nullWord hw')]

theorem afterNull?_eq_some_iff : afterNull? cs = some rest ↔
    ∃ word ∈ nullWords, cs = word ++ rest ∧ rest.head?.any isWord = false := by
  constructor
  · intro h
    obtain ⟨word, hw, h⟩ := List.exists_of_findSome?_eq_some h
    exact ⟨word, hw, afterWord?_eq_some_iff.1 h⟩
  · rintro ⟨word, hw, rfl, ends⟩
    have found : (afterNull? (word ++ rest)).isSome = true :=
      List.findSome?_isSome_iff.2
        ⟨word, hw, by rw [afterWord?_eq_some_iff.2 ⟨rfl, ends⟩, Option.isSome_some]⟩
    obtain ⟨rest', h⟩ := Option.isSome_iff_exists.1 found
    obtain ⟨word', hw', h'⟩ := List.exists_of_findSome?_eq_some h
    obtain ⟨same, -⟩ := afterWord?_eq_some_iff.1 h'
    obtain rfl := nullWord_unique hw hw' same
    rw [h, List.append_cancel_left same]

theorem IsTail.ne_nil (h : IsTail w) : w ≠ [] := by
  obtain ⟨b, b', word, -, -, -, rfl⟩ := h
  simp

theorem IsTail.isWord_getLast? (h : IsTail w) : w.getLast?.any isWord = true := by
  obtain ⟨b, b', word, -, -, hw, rfl⟩ := h
  have last : ∀ v ∈ nullWords, v.getLast?.any isWord = true := by decide
  obtain ⟨c, hc, hword⟩ := (Option.any_eq_true _ _).1 (last word hw)
  obtain ⟨v, rfl⟩ := List.getLast?_eq_some_iff.1 hc
  simp [List.getLast?_append, List.getLast?_cons, hword]

theorem afterTail?_eq_some_iff : afterTail? cs = some rest ↔
    ∃ w, IsTail w ∧ cs = w ++ rest ∧ rest.head?.any isWord = false := by
  constructor
  · intro h
    rw [afterTail?] at h
    split at h
    · next r hr =>
      obtain ⟨word, hw, eq, ends⟩ := afterNull?_eq_some_iff.1 h
      refine ⟨_, ⟨cs.takeWhile isBlank, r.takeWhile isBlank, word, fun c => List.mem_takeWhile_imp,
        fun c => List.mem_takeWhile_imp, hw, rfl⟩, ?_, ends⟩
      rw [List.append_assoc, List.cons_append, List.append_assoc, ← eq,
        List.takeWhile_append_dropWhile, ← hr, List.takeWhile_append_dropWhile]
    · cases h
  · rintro ⟨_, ⟨b, b', word, hb, hb', hw, rfl⟩, rfl, ends⟩
    have bar : isBlank '|' = false := by decide
    have letters : (word ++ rest).dropWhile isBlank = word ++ rest := by
      have first : ∀ v ∈ nullWords, v.head?.any isBlank = false := by decide
      have head := first word hw
      cases word with
      | nil => exact absurd rfl (ne_nil_of_nullWord hw)
      | cons c word =>
        rw [List.cons_append, List.dropWhile_cons_of_neg]
        simpa using head
    rw [afterTail?, List.append_assoc, List.dropWhile_append_of_pos hb, List.cons_append,
      List.dropWhile_cons_of_neg (by simp [bar])]
    show afterNull? _ = _
    rw [List.append_assoc, List.dropWhile_append_of_pos hb', letters]
    exact afterNull?_eq_some_iff.2 ⟨word, hw, rfl, ends⟩

/-! ## Null alternatives as a pattern -/

/-- The pattern of null alternatives, without the edge of the word at the end. -/
def bareTail : Pattern :=
  .blanks ++ .text "|" ++ .blanks ++ .firstOf [.text "None", .text "null", .text "undefined"]

theorem isBare_bareTail : bareTail.isBare = true := by decide

theorem nullableTail_eq : nullableTail = bareTail ++ .wordEdge := rfl

theorem mem_language_bareTail : w ∈ bareTail.language ↔ IsTail w := by
  have blank {v : List Char} : v ∈ Pattern.blanks.language ↔ ∀ c ∈ v, isBlank c = true :=
    Pattern.mem_language_star_char
  have word {v : List Char} : v ∈ (Pattern.firstOf [.text "None", .text "null",
      .text "undefined"]).language ↔ v ∈ nullWords := by
    simp [Pattern.mem_language_firstOf, Pattern.mem_language_text, nullWords]
  rw [bareTail, Pattern.language_append, Pattern.language_append, Pattern.language_append,
    mul_assoc, mul_assoc, Language.mem_mul]
  constructor
  · rintro ⟨b, hb, _, behind, rfl⟩
    obtain ⟨_, inner, rfl⟩ := Pattern.mem_language_text_mul.1 behind
    obtain ⟨b', hb', v, hv, rfl⟩ := Language.mem_mul.1 inner
    exact ⟨b, b', v, blank.1 hb, blank.1 hb', word.1 hv, rfl⟩
  · rintro ⟨b, b', v, hb, hb', hv, rfl⟩
    have inner := Language.mem_mul.2 ⟨b', blank.2 hb', v, word.2 hv, rfl⟩
    exact ⟨b, blank.2 hb, _, Pattern.mem_language_text_mul.2 ⟨_, inner, rfl⟩, rfl⟩

theorem wordAt_eq (cs : List Char) (i : ℕ) :
    Pattern.wordAt cs.toArray i = cs[i]?.any isWord := by
  rw [Pattern.wordAt, List.getElem?_toArray]
  cases cs[i]? <;> rfl

/-- Behind a word there is an edge just if it does not go on. -/
theorem isWordEdge_of_stands (h : cs.drop i = w ++ rest) (hw : w.getLast?.any isWord = true) :
    Pattern.isWordEdge cs.toArray (i + w.length) = !rest.head?.any isWord := by
  obtain ⟨c, hc, word⟩ := (Option.any_eq_true _ _).1 hw
  obtain ⟨v, rfl⟩ := List.getLast?_eq_some_iff.1 hc
  have before : cs[i + v.length]? = some c := by
    rw [← List.getElem?_drop, h]
    simp
  have behind : cs[i + (v ++ [c]).length]? = rest.head? := by
    rw [← List.getElem?_drop, h, List.getElem?_append_right le_rfl, Nat.sub_self,
      List.head?_eq_getElem?]
  have length : (v ++ [c]).length = v.length + 1 := List.length_append
  have place : i + (v ++ [c]).length - 1 = i + v.length := by omega
  have inside : decide (0 < i + (v ++ [c]).length) = true := decide_eq_true (by omega)
  rw [Pattern.isWordEdge, wordAt_eq, wordAt_eq, behind, place, before, Option.any_some, word,
    inside, Bool.and_true, Bool.bne_true]

theorem mem_outcomes_nullableTail :
    st ∈ Pattern.outcomes cs.toArray nullableTail ⟨i, []⟩ ↔
      ∃ rest, afterTail? (cs.drop i) = some rest ∧ st = ⟨cs.length - rest.length, []⟩ := by
  have pos {w rest : List Char} (h : cs.drop i = w ++ rest) (hw : IsTail w) :
      i + w.length = cs.length - rest.length := by
    have length := congrArg List.length h
    have := List.length_pos_iff.2 hw.ne_nil
    rw [List.length_drop, List.length_append] at length
    omega
  simp only [nullableTail_eq, Pattern.mem_outcomes_append, Pattern.mem_outcomes_iff_of_isBare
    isBare_bareTail, Pattern.mem_outcomes_wordEdge, mem_language_bareTail, afterTail?_eq_some_iff]
  constructor
  · rintro ⟨_, ⟨w, hw, ⟨rest, h⟩, rfl⟩, edge, rfl⟩
    rw [isWordEdge_of_stands h.symm hw.isWord_getLast?, Bool.not_eq_true'] at edge
    exact ⟨rest, ⟨w, hw, h.symm, edge⟩, by rw [pos h.symm hw]⟩
  · rintro ⟨rest, ⟨w, hw, h, ends⟩, rfl⟩
    refine ⟨_, ⟨w, hw, ⟨rest, h.symm⟩, rfl⟩, ?_, by rw [pos h hw]⟩
    rw [isWordEdge_of_stands h hw.isWord_getLast?, ends, Bool.not_false]

/-- Null alternatives are read from the left. -/
theorem readBy_nullableTail : ReadBy nullableTail afterTail? where
  matchAt _ _ := Pattern.matchAt_eq_of_outcomes fun _ => mem_outcomes_nullableTail
  suffix h := by
    obtain ⟨w, -, rfl, -⟩ := afterTail?_eq_some_iff.1 h
    exact List.suffix_append w _
  length_lt h := by
    obtain ⟨w, hw, rfl, -⟩ := afterTail?_eq_some_iff.1 h
    have := List.length_pos_iff.2 hw.ne_nil
    rw [List.length_append]
    omega

/-! ## What comes behind a type -/

/-- A text that does not end with a blank. -/
def Solid (cs : List Char) : Prop := cs.getLast?.any isBlank = false

variable {t u x : List Char}

theorem Solid.of_suffix (h : Solid t) (hu : u <:+ t) : Solid u := by
  obtain ⟨v, rfl⟩ := hu
  rw [Solid, List.getLast?_append] at h
  rw [Solid]
  cases hl : u.getLast? with
  | none => rfl
  | some c => rwa [hl, Option.some_or] at h

theorem Solid.dropWhile_append (h : Solid t) (ne : t ≠ []) (tail : List Char) :
    (t ++ tail).dropWhile isBlank = t.dropWhile isBlank ++ tail ∧ t.dropWhile isBlank ≠ [] := by
  have rest : t.dropWhile isBlank ≠ [] := by
    rw [Ne, List.dropWhile_eq_nil_iff]
    intro blank
    rw [Solid, List.getLast?_eq_some_getLast ne, Option.any_some,
      blank _ (List.getLast_mem ne)] at h
    cases h
  refine ⟨?_, rest⟩
  rw [List.dropWhile_append, if_neg (by simpa using rest)]

theorem afterWord?_append (hw : ∀ c ∈ word, isWord c = true) (hd : isWord d = false)
    (cs tail : List Char) :
    afterWord? word (cs ++ d :: tail) = (afterWord? word cs).map (· ++ d :: tail) := by
  induction word generalizing cs with
  | nil =>
    -- A word that ends with the type does so before what comes behind it, too.
    have ends : (cs ++ d :: tail).head?.any isWord = cs.head?.any isWord := by
      cases cs with
      | nil => simp [hd]
      | cons e cs => rfl
    rw [afterWord?, afterWord?, ends]
    split <;> rfl
  | cons c word ih =>
    obtain ⟨hc, hw⟩ := List.forall_mem_cons.1 hw
    cases cs with
    | nil =>
      have ne : c ≠ d := by
        rintro rfl
        rw [hc] at hd
        cases hd
      simp [afterWord?, ne]
    | cons e cs =>
      rw [List.cons_append, afterWord?, afterWord?, ih hw]
      split <;> rfl

theorem afterNull?_append (hd : isWord d = false) (cs tail : List Char) :
    afterNull? (cs ++ d :: tail) = (afterNull? cs).map (· ++ d :: tail) := by
  have each (words : List (List Char)) (h : ∀ word ∈ words, ∀ c ∈ word, isWord c = true) :
      words.findSome? (afterWord? · (cs ++ d :: tail)) =
        (words.findSome? (afterWord? · cs)).map (· ++ d :: tail) := by
    induction words with
    | nil => rfl
    | cons word words ih =>
      obtain ⟨hw, h⟩ := List.forall_mem_cons.1 h
      rw [List.findSome?_cons, List.findSome?_cons, afterWord?_append hw hd, ih h]
      cases afterWord? word cs <;> rfl
  exact each nullWords fun word hw c => isWord_of_nullWord hw

/-- Whether a type goes on with null is told without what comes behind it, as long as that is no
part of a word for null. -/
theorem afterTail?_append (h : Solid t) (ne : t ≠ []) (hd : isWord d = false)
    (no : afterNull? ((d :: tail).dropWhile isBlank) = none) :
    afterTail? (t ++ d :: tail) = (afterTail? t).map (· ++ d :: tail) := by
  obtain ⟨eq, rest⟩ := h.dropWhile_append ne (d :: tail)
  have suffix := List.dropWhile_suffix isBlank (l := t)
  rw [afterTail?, afterTail?, eq]
  cases hr : t.dropWhile isBlank with
  | nil => exact absurd hr rest
  | cons c r =>
    rw [hr] at suffix
    by_cases hc : c = '|'
    · subst hc
      show afterNull? ((r ++ d :: tail).dropWhile isBlank) =
        (afterNull? (r.dropWhile isBlank)).map (· ++ d :: tail)
      by_cases hn : r = []
      · subst hn
        rw [List.nil_append, no]
        rfl
      · have solid := h.of_suffix ((List.suffix_cons '|' r).trans suffix)
        rw [(solid.dropWhile_append hn (d :: tail)).1, afterNull?_append hd]
    · simp [hc]

theorem leftBy_append (h : Solid t) (hd : isWord d = false)
    (no : afterNull? ((d :: tail).dropWhile isBlank) = none) :
    leftBy afterTail? (t ++ d :: tail) = leftBy afterTail? t ++ leftBy afterTail? (d :: tail) :=
  readBy_nullableTail.leftBy_append fun _ ne hu => afterTail?_append (h.of_suffix hu) ne hd no

/-- An alternative that is null behind a type is dropped. -/
theorem leftBy_append_tail (h : Solid t) (hw : word ∈ nullWords) :
    leftBy afterTail? (t ++ ' ' :: '|' :: ' ' :: word) = leftBy afterTail? t := by
  have blank : ∀ c ∈ [' '], isBlank c = true := List.all_eq_true.1 rfl
  have tail : IsTail (' ' :: '|' :: ' ' :: word) := ⟨[' '], [' '], word, blank, blank, hw, rfl⟩
  have all : afterTail? (' ' :: '|' :: ' ' :: word) = some [] :=
    afterTail?_eq_some_iff.2 ⟨_, tail, (List.append_nil _).symm, rfl⟩
  have no : afterNull? ((' ' :: '|' :: ' ' :: word).dropWhile isBlank) = none := by
    show afterNull? ('|' :: ' ' :: word) = none
    simp [afterNull?, nullWords, afterWord?]
  rw [leftBy_append h (by decide) no, readBy_nullableTail.leftBy_of_some all, Pattern.leftBy_nil,
    List.append_nil]

theorem leftBy_append_questionMark (h : Solid t) :
    leftBy afterTail? (t ++ ['?']) = leftBy afterTail? t ++ ['?'] := by
  have no : afterNull? (['?'].dropWhile isBlank) = none := by decide
  rw [leftBy_append h (by decide) no,
    Pattern.leftBy_cons_of_none (show afterTail? ['?'] = none by decide), Pattern.leftBy_nil]

end ApiAccord.TypeName
