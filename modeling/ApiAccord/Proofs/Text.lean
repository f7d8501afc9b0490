import ApiAccord.Text.Basic
import Mathlib.Data.List.DropRight

/-!
# Texts around a separator

The first separator of a text tells what stands before it, so that two texts joined by a separator
which the first of them does not contain can be had back; and pieces without the separator are what
a text splits into that they make together.  A head that a text begins with can be taken off.  What
is left of a text without the blanks around it is a piece of it, and has none around itself.
-/

namespace ApiAccord.Text

theorem Chars.splitAt?_append {sep : Char} {before : List Char} (after : List Char)
    (h : sep ∉ before) : splitAt? sep (before ++ sep :: after) = (before, some after) := by
  induction before with
  | nil => simp [splitAt?]
  | cons c rest ih =>
    obtain ⟨hc, hr⟩ := not_or.1 (mt List.mem_cons.2 h)
    simp [splitAt?, Ne.symm hc, ih hr]

/-- What stands before the first separator. -/
theorem Chars.splitAt?_fst (sep : Char) (cs : List Char) :
    (splitAt? sep cs).1 = cs.takeWhile (· != sep) := by
  induction cs with
  | nil => rfl
  | cons c rest ih => by_cases hc : c = sep <;> simp [splitAt?, hc, ih]

theorem append_sharp_inj {a b c d : String} (ha : '#' ∉ a.toList) (hb : '#' ∉ b.toList)
    (h : a ++ "#" ++ c = b ++ "#" ++ d) : a = b ∧ c = d := by
  have hl : a.toList ++ '#' :: c.toList = b.toList ++ '#' :: d.toList := by
    simpa [String.toList_append] using congrArg String.toList h
  have hs := congrArg (Chars.splitAt? '#') hl
  rw [Chars.splitAt?_append _ ha, Chars.splitAt?_append _ hb] at hs
  obtain ⟨hab, hcd⟩ := Prod.mk.inj hs
  exact ⟨String.toList_inj.1 hab, String.toList_inj.1 (Option.some.inj hcd)⟩

/-! ## Pieces -/

theorem Chars.splitOn_eq_singleton {sep : Char} {piece : List Char} (h : sep ∉ piece) :
    splitOn sep piece = [piece] := by
  induction piece with
  | nil => rfl
  | cons c rest ih =>
    obtain ⟨hc, hr⟩ := not_or.1 (mt List.mem_cons.2 h)
    simp [splitOn, Ne.symm hc, ih hr]

theorem Chars.splitOn_append {sep : Char} {piece : List Char} (rest : List Char) (h : sep ∉ piece) :
    splitOn sep (piece ++ sep :: rest) = piece :: splitOn sep rest := by
  induction piece with
  | nil => simp [splitOn]
  | cons c cs ih =>
    obtain ⟨hc, hr⟩ := not_or.1 (mt List.mem_cons.2 h)
    simp [splitOn, Ne.symm hc, ih hr]

theorem Chars.splitOn_intercalate {sep : Char} {pieces : List (List Char)} (hne : pieces ≠ [])
    (h : ∀ p ∈ pieces, sep ∉ p) : splitOn sep ([sep].intercalate pieces) = pieces := by
  induction pieces with
  | nil => exact absurd rfl hne
  | cons p rest ih =>
    cases rest with
    | nil => rw [List.intercalate_singleton, splitOn_eq_singleton (h p List.mem_cons_self)]
    | cons q rest =>
      rw [List.intercalate_cons_cons, List.append_assoc, List.singleton_append,
        splitOn_append _ (h p List.mem_cons_self), ih (List.cons_ne_nil _ _)
          fun r hr => h r (List.mem_cons_of_mem _ hr)]

theorem Chars.splitOn_ne_nil {sep : Char} (cs : List Char) : splitOn sep cs ≠ [] := by
  cases cs with
  | nil => exact List.cons_ne_nil _ _
  | cons c rest =>
    rw [splitOn]
    split
    · exact List.cons_ne_nil _ _
    · split <;> exact List.cons_ne_nil _ _

/-- The pieces of a text make it up. -/
theorem Chars.intercalate_splitOn (sep : Char) (cs : List Char) :
    [sep].intercalate (splitOn sep cs) = cs := by
  fun_induction splitOn sep cs with
  | case1 => rfl
  | case2 c rest hc ih =>
    rw [List.intercalate_cons_of_ne_nil (splitOn_ne_nil rest), ih, beq_iff_eq.1 hc]
    rfl
  | case3 c rest hc hs => exact absurd hs (splitOn_ne_nil rest)
  | case4 c rest hc first pieces hs ih =>
    rw [← ih, hs]
    cases pieces with
    | nil => simp
    | cons next pieces => simp [List.intercalate_cons_cons]

/-- There is one piece more than there are separators. -/
theorem Chars.length_splitOn (sep : Char) (cs : List Char) :
    (splitOn sep cs).length = cs.count sep + 1 := by
  fun_induction splitOn sep cs with
  | case1 => rfl
  | case2 c rest hc ih => rw [beq_iff_eq.1 hc, List.length_cons, ih, List.count_cons_self]
  | case3 c rest hc hs => exact absurd hs (splitOn_ne_nil rest)
  | case4 c rest hc first pieces hs ih =>
    rw [hs, List.length_cons] at ih
    rw [List.length_cons, ih, List.count_cons_of_ne fun e => hc (beq_iff_eq.2 e)]

/-- No piece of a text has the separator. -/
theorem Chars.sep_notMem_of_mem_splitOn {sep : Char} {cs piece : List Char}
    (h : piece ∈ splitOn sep cs) : sep ∉ piece := by
  fun_induction splitOn sep cs generalizing piece with
  | case1 => exact List.mem_singleton.1 h ▸ List.not_mem_nil
  | case2 c rest hc ih =>
    rcases List.mem_cons.1 h with rfl | h
    · exact List.not_mem_nil
    · exact ih h
  | case3 c rest hc hs ih =>
    obtain rfl := List.mem_singleton.1 h
    exact fun hs => hc (beq_iff_eq.2 (List.mem_singleton.1 hs).symm)
  | case4 c rest hc first pieces hs ih =>
    rcases List.mem_cons.1 h with rfl | h
    · rw [List.mem_cons, not_or]
      exact ⟨fun h => hc (beq_iff_eq.2 h.symm), ih (hs ▸ List.mem_cons_self)⟩
    · exact ih (hs ▸ List.mem_cons_of_mem _ h)

/-! ## Heads -/

theorem stripHead?_eq_some_iff {head s rest : String} :
    stripHead? head s = some rest ↔ s = head ++ rest := by
  rw [stripHead?, startsWith, dropFirst]
  constructor
  · intro h
    split at h
    · next hp =>
      obtain ⟨tail, ht⟩ := List.isPrefixOf_iff_prefix.1 hp
      obtain rfl := Option.some.inj h
      rw [← String.toList_inj, String.toList_append, ← ht, ← String.length_toList,
        List.drop_left, String.toList_ofList]
    · cases h
  · rintro rfl
    have hp : head.toList.isPrefixOf (head ++ rest).toList = true := by
      rw [List.isPrefixOf_iff_prefix, String.toList_append]
      exact List.prefix_append _ _
    rw [if_pos hp, String.toList_append, ← String.length_toList, List.drop_left,
      String.ofList_toList]

theorem dropFirst_append (head rest : String) : dropFirst head.length (head ++ rest) = rest := by
  rw [dropFirst, String.toList_append, ← String.length_toList, List.drop_left, String.ofList_toList]

theorem startsWith_eq_true_iff {head s : String} :
    startsWith head s = true ↔ ∃ rest, s = head ++ rest := by
  simp only [← stripHead?_eq_some_iff]
  rw [stripHead?]
  split <;> simp_all

/-! ## Trimming -/

section Trimming

variable (p : Char → Bool) (cs : List Char)

theorem Chars.dropEndWhile_eq : dropEndWhile p cs = cs.rdropWhile p := rfl

theorem Chars.dropEndWhile_prefix_self : dropEndWhile p cs <+: cs := List.rdropWhile_prefix p cs

theorem Chars.trimBy_infix : trimBy p cs <:+: cs :=
  (dropEndWhile_prefix_self p _).isInfix.trans (List.dropWhile_suffix p).isInfix

/-- What is left of a text begins as the text does once its head was dropped. -/
theorem Chars.dropWhile_trimBy : (trimBy p cs).dropWhile p = trimBy p cs := by
  obtain ⟨tail, ht⟩ := dropEndWhile_prefix_self p (cs.dropWhile p)
  rw [trimBy]
  cases hl : dropEndWhile p (cs.dropWhile p) with
  | nil => rfl
  | cons c rest =>
    rw [hl, List.cons_append] at ht
    have head : p c = false := by
      have := List.head?_dropWhile_not p cs
      rw [← ht] at this
      simpa using this
    rw [List.dropWhile_cons_of_neg (by simp [head])]

theorem Chars.dropEndWhile_trimBy : dropEndWhile p (trimBy p cs) = trimBy p cs :=
  List.rdropWhile_idempotent p _

theorem Chars.trimBy_trimBy : trimBy p (trimBy p cs) = trimBy p cs := by
  rw [trimBy.eq_def p (trimBy p cs), dropWhile_trimBy, dropEndWhile_trimBy]

/-- A text is trimmed if it neither begins nor ends with a character of the class. -/
theorem Chars.trimBy_eq_self_iff :
    trimBy p cs = cs ↔ cs.head?.any p = false ∧ cs.getLast?.any p = false := by
  have first : cs.dropWhile p = cs ↔ cs.head?.any p = false := by
    cases cs <;> simp
  have last : dropEndWhile p cs = cs ↔ cs.getLast?.any p = false := by
    rw [dropEndWhile_eq, List.rdropWhile_eq_self_iff]
    cases h : cs.getLast? with
    | none => simp [List.getLast?_eq_none_iff.1 h]
    | some c =>
      obtain ⟨v, rfl⟩ := List.getLast?_eq_some_iff.1 h
      simp
  rw [← first, ← last]
  constructor
  · intro h
    have head := dropWhile_trimBy p cs
    have tail := dropEndWhile_trimBy p cs
    rw [h] at head tail
    exact ⟨head, tail⟩
  · rintro ⟨head, tail⟩
    rw [trimBy, head, tail]

theorem trim_infix (s : String) : (trim s).toList <:+: s.toList := by
  rw [trim, String.toList_ofList]
  exact Chars.trimBy_infix isBlank s.toList

theorem trim_trim (s : String) : trim (trim s) = trim s := by
  rw [trim, trim, String.toList_ofList, Chars.trimBy_trimBy]

end Trimming

/-! ## Replaced pairs -/

section Pairs

variable {α : Type} [BEq α]

theorem Chars.replacePair_cons_of_ne [LawfulBEq α] {a b c : α} (h : c ≠ a) (new cs : List α) :
    replacePair a b new (c :: cs) = c :: replacePair a b new cs := by
  cases cs with
  | nil => rfl
  | cons d rest => simp [replacePair, h]

/-- A character stays, or something was replaced and the replacement is there. -/
theorem Chars.mem_replacePair (a b : α) (new : List α) {c : α} {cs : List α}
    (h : c ∈ cs) :
    c ∈ replacePair a b new cs ∨ ∀ d ∈ new, d ∈ replacePair a b new cs := by
  fun_induction replacePair a b new cs with
  | case1 => exact .inl h
  | case2 => exact .inl h
  | case3 => exact .inr fun d hd => List.mem_append_left _ hd
  | case4 d e rest _ ih =>
    rcases List.mem_cons.1 h with rfl | h
    · exact .inl List.mem_cons_self
    · exact (ih h).imp (List.mem_cons_of_mem _) fun hn d hd => List.mem_cons_of_mem _ (hn d hd)

/-- Where the first character of a pair is not, nothing is replaced. -/
theorem Chars.replacePair_eq_self [LawfulBEq α] {a b : α} {new cs : List α} (h : a ∉ cs) :
    replacePair a b new cs = cs := by
  fun_induction replacePair a b new cs with
  | case1 => rfl
  | case2 => rfl
  | case3 d e rest hde ih =>
    obtain ⟨hd, -⟩ := Bool.and_eq_true_iff.1 hde
    rw [beq_iff_eq] at hd
    exact absurd (hd ▸ List.mem_cons_self) h
  | case4 d e rest _ ih => rw [ih fun hm => h (List.mem_cons_of_mem _ hm)]

end Pairs

end ApiAccord.Text
