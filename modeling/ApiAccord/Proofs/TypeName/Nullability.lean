import ApiAccord.Proofs.TypeName.Agreement
import ApiAccord.Proofs.TypeName.NullAlternatives

/-!
# Making a type nullable

A type is made nullable by `Optional`, by an alternative that is null, or by a question mark.  What
is nullable in any of these ways is spelled as the type stands (`normalize_nullableForm`).  That is
how the type itself is spelled, unless it is an `Optional` one: in that case the type itself is
spelled as what it wraps, and so it may agree with other types than before (`compatible_nullable`).
-/

namespace ApiAccord.TypeName

open Pattern (leftBy)
open Text (isBlank isWord)

/-! ## Nullable forms -/

/-- The ways to write that a type may be null. -/
def nullableForms (t : String) : List String :=
  ["Optional[" ++ t ++ "]", t ++ " | None", t ++ " | null", t ++ "?"]

/-- A type as it is declared: on one line, and without blanks around it. -/
structure IsTypeText (t : String) : Prop where
  trimmed : Text.trim t = t
  nonempty : t ≠ ""
  oneLine : '\n' ∉ t.toList

/-- A type that is optional as a whole. -/
def IsOptional (t : String) : Prop := ∃ x, x ≠ "" ∧ t = "Optional[" ++ x ++ "]"

/-- The common spelling of a type that is taken as it stands, even if it is an optional one. -/
def spelling (name : String) : String :=
  if arrayForm.occursIn (dropNullable name).toList.toArray then "array"
  else Text.lower (dropNullable name)

variable {t w mark : String} {cs x : List Char} {st : Pattern.State}

theorem normalize_eq (type : String) :
    normalize type = spelling (unwrapOptional (Text.trim type)) := rfl

/-! ## What is dropped from a type -/

theorem toList_dropNullable (s : String) : (dropNullable s).toList =
    Text.Chars.trimBy isBlank
      (Text.Chars.dropEndWhile (· == '?') (leftBy afterTail? s.toList)) := by
  rw [dropNullable, readBy_nullableTail.toList_remove, String.toList_ofList]

theorem IsTypeText.ends (h : IsTypeText t) :
    t.toList.head?.any isBlank = false ∧ t.toList.getLast?.any isBlank = false := by
  refine (Text.Chars.trimBy_eq_self_iff isBlank t.toList).1 ?_
  rw [← String.ofList_inj, String.ofList_toList]
  exact h.trimmed

theorem IsTypeText.solid (h : IsTypeText t) : Solid t.toList := h.ends.2

theorem dropNullable_append_tail (h : IsTypeText t) {word : List Char} (hw : word ∈ nullWords)
    (hm : mark.toList = ' ' :: '|' :: ' ' :: word) : dropNullable (t ++ mark) = dropNullable t := by
  rw [← String.toList_inj, toList_dropNullable, toList_dropNullable, String.toList_append, hm,
    leftBy_append_tail h.solid hw]

theorem dropNullable_append_questionMark (h : IsTypeText t) :
    dropNullable (t ++ "?") = dropNullable t := by
  have text : (t ++ "?").toList = t.toList ++ ['?'] := by simp
  have mark : Text.Chars.dropEndWhile (· == '?') (leftBy afterTail? t.toList ++ ['?']) =
      Text.Chars.dropEndWhile (· == '?') (leftBy afterTail? t.toList) :=
    List.rdropWhile_concat_pos _ _ _ rfl
  rw [← String.toList_inj, toList_dropNullable, toList_dropNullable, text,
    leftBy_append_questionMark h.solid, mark]

/-! ## What an optional type wraps -/

/-- A text that is made optional. -/
def wrapped (x : List Char) : List Char := "Optional[".toList ++ (x ++ "]".toList)

theorem wrapped_eq (x : List Char) : wrapped x = "Optional[".toList ++ (x ++ "]".toList) := rfl

theorem isTextEnd_iff (oneLine : '\n' ∉ cs) (i : ℕ) :
    Pattern.isTextEnd cs.toArray i = true ↔ i = cs.length := by
  have no : cs[i]? ≠ some '\n' := fun h => oneLine (List.mem_of_getElem? h)
  simp [Pattern.isTextEnd, no]

/-- What is wrapped is not empty, and stands on one line. -/
theorem mem_outcomes_inner {st st' : Pattern.State} :
    st' ∈ Pattern.outcomes cs.toArray (.plus (.char (.not (.one '\n')))) st ↔
      ∃ x, (x ≠ [] ∧ '\n' ∉ x) ∧ x <+: cs.drop st.pos ∧
        st' = ⟨st.pos + x.length, st.groups⟩ := by
  have bare : (Pattern.plus (.char (.not (.one '\n')))).isBare = true := rfl
  have line {x : List Char} : (∀ c ∈ x, (CharClass.not (.one '\n')).holds c = true) ↔ '\n' ∉ x := by
    simp [CharClass.holds, List.forall_mem_ne]
  simp only [Pattern.mem_outcomes_iff_of_isBare bare, Pattern.mem_language_plus_char, line]

theorem length_opening : "Optional[".toList.length = 9 := by decide

theorem length_closing : "]".toList.length = 1 := by decide

theorem head?_wrapped (x : List Char) : (wrapped x).head? = some 'O' := by
  have first : "Optional[".toList = 'O' :: "ptional[".toList := by decide
  rw [wrapped_eq, first]
  rfl

theorem getLast?_wrapped (x : List Char) : (wrapped x).getLast? = some ']' := by
  have last : "]".toList = [']'] := by decide
  rw [wrapped_eq, ← List.append_assoc, last, List.getLast?_concat]

theorem wrapped_prefix_iff : wrapped x <+: cs ↔ "Optional[".toList <+: cs ∧ x <+: cs.drop 9 ∧
    "]".toList <+: cs.drop (9 + x.length) := by
  rw [wrapped_eq, Pattern.append_prefix_iff, Pattern.append_prefix_iff, List.drop_drop,
    length_opening]

theorem length_wrapped (x : List Char) : (wrapped x).length = 9 + x.length + 1 := by
  rw [wrapped_eq, List.length_append, List.length_append, length_opening, length_closing,
    Nat.add_assoc]

/-- On one line, the wrapper of optional types matches a whole text or nothing. -/
theorem mem_outcomes_optionalWrapper (oneLine : '\n' ∉ cs) :
    st ∈ Pattern.outcomes cs.toArray optionalWrapper ⟨0, []⟩ ↔
      ∃ x, x ≠ [] ∧ cs = wrapped x ∧ st = ⟨cs.length, [(1, 9, 9 + x.length)]⟩ := by
  have ways : st ∈ Pattern.outcomes cs.toArray optionalWrapper ⟨0, []⟩ ↔
      ∃ x, (x ≠ [] ∧ '\n' ∉ x) ∧ wrapped x <+: cs ∧ (wrapped x).length = cs.length ∧
        st = ⟨(wrapped x).length, [(1, 9, 9 + x.length)]⟩ := by
    simp only [optionalWrapper, Pattern.mem_outcomes_append, Pattern.mem_outcomes_textStart,
      Pattern.mem_outcomes_text, Pattern.mem_outcomes_group, mem_outcomes_inner,
      Pattern.mem_outcomes_textEnd, isTextEnd_iff oneLine, wrapped_prefix_iff, length_wrapped,
      length_opening, length_closing]
    constructor
    · rintro ⟨_, ⟨_, ⟨_, ⟨_, ⟨-, rfl⟩, opening, rfl⟩, _, ⟨x, hx, inner, rfl⟩, rfl⟩, closing, rfl⟩,
        whole, rfl⟩
      exact ⟨x, hx, ⟨opening, inner, closing⟩, whole, rfl⟩
    · rintro ⟨x, hx, ⟨opening, inner, closing⟩, whole, rfl⟩
      exact ⟨_, ⟨_, ⟨_, ⟨_, ⟨trivial, rfl⟩, opening, rfl⟩, _, ⟨x, hx, inner, rfl⟩, rfl⟩, closing,
        rfl⟩, whole, rfl⟩
  rw [ways]
  constructor
  · rintro ⟨x, ⟨ne, -⟩, stands, length, rfl⟩
    exact ⟨x, ne, (stands.eq_of_length length).symm, by rw [length]⟩
  · rintro ⟨x, ne, rfl, rfl⟩
    have line : '\n' ∉ x := fun h => oneLine (List.mem_append_right _ (List.mem_append_left _ h))
    exact ⟨x, ⟨ne, line⟩, List.prefix_rfl, rfl, rfl⟩

theorem wrapped_inj {x y : List Char} (h : wrapped x = wrapped y) : x = y :=
  List.append_cancel_right (List.append_cancel_left h)

theorem matchAt_wrapped (ne : x ≠ []) (oneLine : '\n' ∉ wrapped x) :
    optionalWrapper.matchAt (wrapped x).toArray 0 =
      some ⟨0, (wrapped x).length, [(1, 9, 9 + x.length)]⟩ := by
  have mem := (mem_outcomes_optionalWrapper oneLine).2 ⟨x, ne, rfl, rfl⟩
  rw [Pattern.matchAt_eq]
  cases first : (Pattern.outcomes (wrapped x).toArray optionalWrapper ⟨0, []⟩).head? with
  | none => exact absurd (List.head?_eq_none_iff.1 first) (List.ne_nil_of_mem mem)
  | some st =>
    obtain ⟨y, -, same, rfl⟩ :=
      (mem_outcomes_optionalWrapper oneLine).1 (List.mem_of_head? first)
    rw [wrapped_inj same]
    rfl

theorem toList_optional (t : String) : ("Optional[" ++ t ++ "]").toList = wrapped t.toList := by
  rw [String.toList_append, String.toList_append, List.append_assoc, wrapped_eq]

/-- What is made optional comes out again, without the blanks around it. -/
theorem unwrapOptional_optional (ne : t ≠ "") (oneLine : '\n' ∉ t.toList) :
    unwrapOptional ("Optional[" ++ t ++ "]") = Text.trim t := by
  have line : '\n' ∉ wrapped t.toList := by
    have brackets : '\n' ∉ "Optional[".toList ∧ '\n' ∉ "]".toList := by decide
    simp only [wrapped_eq, List.mem_append, not_or]
    exact ⟨brackets.1, oneLine, brackets.2⟩
  have inner := (wrapped_prefix_iff.1 (List.prefix_refl (wrapped t.toList))).2.1
  have found : (optionalWrapper.matchAt (wrapped t.toList).toArray 0).bind
      (fun m => m.groupText? (wrapped t.toList).toArray 1) = some t := by
    rw [matchAt_wrapped (by simpa using ne) line]
    show some (Pattern.slice _ 9 (9 + t.toList.length)) = some t
    rw [Pattern.slice_eq_ofList inner, String.ofList_toList]
  rw [unwrapOptional, toList_optional, found]

/-- A type that is no optional one is taken as it stands. -/
theorem unwrapOptional_of_not_isOptional (h : ¬IsOptional t) (oneLine : '\n' ∉ t.toList) :
    unwrapOptional t = t := by
  have none : Pattern.outcomes t.toList.toArray optionalWrapper ⟨0, []⟩ = [] := by
    refine List.eq_nil_iff_forall_not_mem.2 fun st hst => h ?_
    obtain ⟨x, ne, eq, -⟩ := (mem_outcomes_optionalWrapper oneLine).1 hst
    refine ⟨String.ofList x, by simpa using ne, ?_⟩
    rw [← String.toList_inj, toList_optional, eq, String.toList_ofList]
  rw [unwrapOptional, Pattern.matchAt_eq, none]
  rfl

/-! ## Nullable forms as spelled -/

/-- What is put behind a type to make it nullable. -/
def nullMarks : List String := [" | None", " | null", "?"]

theorem mem_nullableForms : w ∈ nullableForms t ↔
    w = "Optional[" ++ t ++ "]" ∨ ∃ mark ∈ nullMarks, w = t ++ mark := by
  simp [nullableForms, nullMarks]

theorem nullMark_ends (hm : mark ∈ nullMarks) :
    ∃ c, mark.toList.getLast? = some c ∧ isBlank c = false ∧ c ≠ ']' := by
  have ends : ∀ mark ∈ nullMarks,
      mark.toList.getLast?.any (fun c => !isBlank c && c != ']') = true := by decide
  obtain ⟨c, hc, h⟩ := (Option.any_eq_true _ _).1 (ends mark hm)
  exact ⟨c, hc, by simpa using h⟩

theorem getLast?_append_mark {c : Char} (hc : mark.toList.getLast? = some c)
    (t : String) : (t ++ mark).toList.getLast? = some c := by
  rw [String.toList_append, List.getLast?_append, hc, Option.some_or]

theorem IsTypeText.append_mark (h : IsTypeText t) (hm : mark ∈ nullMarks) :
    IsTypeText (t ++ mark) where
  trimmed := by
    obtain ⟨c, hc, blank, -⟩ := nullMark_ends hm
    have head : t.toList ≠ [] := by simpa using h.nonempty
    rw [Text.trim, (Text.Chars.trimBy_eq_self_iff isBlank _).2, String.ofList_toList]
    rw [getLast?_append_mark hc, String.toList_append, List.head?_append_of_ne_nil _ head]
    exact ⟨h.ends.1, blank⟩
  nonempty e := by
    rw [String.append_eq_empty_iff] at e
    exact h.nonempty e.1
  oneLine := by
    have line : ∀ mark ∈ nullMarks, '\n' ∉ mark.toList := by decide
    rw [String.toList_append, List.mem_append, not_or]
    exact ⟨h.oneLine, line mark hm⟩

theorem not_isOptional_append_mark (hm : mark ∈ nullMarks) (t : String) :
    ¬IsOptional (t ++ mark) := by
  rintro ⟨x, -, eq⟩
  obtain ⟨c, hc, -, ne⟩ := nullMark_ends hm
  have last : ("Optional[" ++ x ++ "]").toList.getLast? = some ']' := by
    rw [toList_optional, getLast?_wrapped]
  rw [← eq, getLast?_append_mark hc, Option.some.injEq] at last
  exact ne last

/-- A type that is no optional one is spelled as it stands. -/
theorem normalize_of_not_isOptional (h : IsTypeText t) (no : ¬IsOptional t) :
    normalize t = spelling t := by
  rw [normalize_eq, h.trimmed, unwrapOptional_of_not_isOptional no h.oneLine]

theorem dropNullable_append_mark (h : IsTypeText t) (hm : mark ∈ nullMarks) :
    dropNullable (t ++ mark) = dropNullable t := by
  simp only [nullMarks, List.mem_cons, List.not_mem_nil, or_false] at hm
  obtain rfl | rfl | rfl := hm
  · exact dropNullable_append_tail h (show "None".toList ∈ nullWords by decide) (by decide)
  · exact dropNullable_append_tail h (show "null".toList ∈ nullWords by decide) (by decide)
  · exact dropNullable_append_questionMark h

theorem trim_optional (t : String) :
    Text.trim ("Optional[" ++ t ++ "]") = "Optional[" ++ t ++ "]" := by
  rw [Text.trim, (Text.Chars.trimBy_eq_self_iff isBlank _).2, String.ofList_toList]
  rw [toList_optional, head?_wrapped, getLast?_wrapped]
  decide

/-- A nullable form is spelled as the type stands. -/
theorem normalize_nullableForm (h : IsTypeText t) (hw : w ∈ nullableForms t) :
    normalize w = spelling t := by
  rcases mem_nullableForms.1 hw with rfl | ⟨mark, hm, rfl⟩
  · rw [normalize_eq, trim_optional, unwrapOptional_optional h.nonempty h.oneLine, h.trimmed]
  · rw [normalize_of_not_isOptional (h.append_mark hm) (not_isOptional_append_mark hm t), spelling,
      spelling, dropNullable_append_mark h hm]

/-! ## Optional types as they stand -/

theorem dropEndWhile_cons_of_neg {p : Char → Bool} {c : Char} (hc : p c = false) (cs : List Char) :
    Text.Chars.dropEndWhile p (c :: cs) = c :: Text.Chars.dropEndWhile p cs := by
  have last : [c].dropWhile p = [c] := List.dropWhile_cons_of_neg (by simp [hc])
  rw [Text.Chars.dropEndWhile, Text.Chars.dropEndWhile, List.reverse_cons, List.dropWhile_append]
  split
  · next empty => rw [List.isEmpty_iff.1 empty, last, List.reverse_nil, List.reverse_singleton]
  · rw [List.reverse_append, List.reverse_singleton, List.singleton_append]

theorem IsOptional.head? (h : IsOptional t) : t.toList.head? = some 'O' := by
  obtain ⟨x, -, rfl⟩ := h
  rw [toList_optional, head?_wrapped]

/-- An optional type begins as it did, whatever is dropped. -/
theorem head?_dropNullable (h : IsOptional t) : (dropNullable t).toList.head? = some 'O' := by
  obtain ⟨rest, hr⟩ := List.head?_eq_some_iff.1 h.head?
  have none : afterTail? ('O' :: rest) = none := rfl
  rw [toList_dropNullable, hr, Pattern.leftBy_cons_of_none none,
    dropEndWhile_cons_of_neg rfl, Text.Chars.trimBy, List.dropWhile_cons_of_neg (by decide),
    dropEndWhile_cons_of_neg (by decide)]
  rfl

theorem head?_lower {s : String} (h : s.toList.head? = some 'O') :
    (Text.lower s).toList.head? = some 'o' := by
  obtain ⟨rest, hr⟩ := List.head?_eq_some_iff.1 h
  have image : Text.lowerChar 'O' = ['o'] := by decide
  rw [Text.lower, String.toList_ofList, hr, Text.lowerAfter, if_neg (by decide), image]
  rfl

/-- As it stands, an optional type is a list if it ends like one. -/
theorem spelling_of_array (h : arrayForm.occursIn (dropNullable t).toList.toArray = true) :
    spelling t = "array" :=
  if_pos h

/-- As it stands, an optional type that is no list is no primitive type. -/
theorem isPrimitive_spelling (h : IsOptional t)
    (no : arrayForm.occursIn (dropNullable t).toList.toArray = false) :
    isPrimitive (spelling t) = false := by
  have none : ∀ name ∈ spellings.flatten, name.toList.head? ≠ some 'o' := by decide
  rw [spelling, no, if_neg Bool.false_ne_true, ← Bool.not_eq_true]
  intro primitive
  exact none _ (mem_of_isPrimitive primitive) (head?_lower (head?_dropNullable h))

/-! ## Types that agree -/

/-- Agreeing does not depend on the order.  Whether a type agrees with another does not change when
it is made nullable, as long as it is not optional itself.  An optional type that is made nullable
agrees with every other, or with what a list agrees with where its text ends like that of a list. -/
theorem compatible_nullable (t u : String) :
    compatible t u = compatible u t ∧
      (IsTypeText t → ∀ w ∈ nullableForms t,
        (¬IsOptional t → compatible w u = compatible t u) ∧
        (IsOptional t → compatible w u =
          (!arrayForm.occursIn (dropNullable t).toList.toArray || compatible "list" u)) ∧
        ((∀ u, compatible w u = compatible t u) ↔
          (IsOptional t → kinds (normalize t) = kinds (spelling t)))) := by
  refine ⟨compatible_comm t u, fun h w hw => ⟨?_, ?_, ?_⟩⟩
  · intro no
    rw [compatible, compatible, normalize_nullableForm h hw, normalize_of_not_isOptional h no]
  · intro optional
    rw [compatible, normalize_nullableForm h hw]
    cases array : arrayForm.occursIn (dropNullable t).toList.toArray with
    | false =>
      rw [agree_of_not_isPrimitive (isPrimitive_spelling optional array), Bool.not_false,
        Bool.true_or]
    | true =>
      have list : kinds "array" = kinds (normalize "list") := by decide +kernel
      rw [spelling_of_array array, agree_right_iff.2 list u, Bool.not_true, Bool.false_or,
        compatible]
  · simp only [compatible, normalize_nullableForm h hw]
    rw [agree_right_iff, eq_comm]
    constructor
    · exact fun same _ => same
    · intro same
      by_cases optional : IsOptional t
      · exact same optional
      · rw [normalize_of_not_isOptional h optional]

/-- A type with an optional one among its alternatives, and an optional type of which nothing else
is known. -/
theorem compatible_nullable_mixed :
    (IsTypeText "int | Optional[str]" ∧ ¬IsOptional "int | Optional[str]" ∧
      ∀ w ∈ nullableForms "int | Optional[str]", ∀ u,
        compatible w u = compatible "int | Optional[str]" u) ∧
    (IsTypeText "Optional[User]" ∧ IsOptional "Optional[User]" ∧
      ∀ w ∈ nullableForms "Optional[User]", ∀ u,
        compatible w u = compatible "Optional[User]" u) := by
  have union : IsTypeText "int | Optional[str]" :=
    ⟨by decide +kernel, by decide, by decide +kernel⟩
  have user : IsTypeText "Optional[User]" := ⟨by decide +kernel, by decide, by decide +kernel⟩
  have no : ¬IsOptional "int | Optional[str]" := fun h => absurd h.head? (by decide +kernel)
  have same : kinds (normalize "Optional[User]") = kinds (spelling "Optional[User]") := by
    decide +kernel
  refine ⟨⟨union, no, fun w hw u => ?_⟩, user, ⟨"User", by decide, by decide +kernel⟩,
    fun w hw => ?_⟩
  · exact ((compatible_nullable _ u).2 union w hw).1 no
  · exact ((compatible_nullable _ "User").2 user w hw).2.2.2 fun _ => same

/-- An optional integer agrees with no text, but one that may be null in one more way does. -/
theorem compatible_optional_orNone :
    IsTypeText "Optional[int]" ∧ "Optional[int] | None" ∈ nullableForms "Optional[int]" ∧
      compatible "Optional[int]" "str" = false ∧ compatible "Optional[int] | None" "str" = true :=
  ⟨⟨by decide +kernel, by decide, by decide +kernel⟩, by decide +kernel, by decide +kernel,
    by decide +kernel⟩

end ApiAccord.TypeName
