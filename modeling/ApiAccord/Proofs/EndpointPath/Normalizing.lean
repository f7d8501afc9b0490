import ApiAccord.EndpointPath
import ApiAccord.Proofs.Text
import Mathlib.Logic.Function.Iterate

/-!
# Normalizing again

`normalize` drops a query, a fragment, blanks and trailing slashes, each once and in this order.  A
blank before the slashes is at the end when these are gone, so that normalizing again drops it, and
then the slashes before it.  All other normalized paths stay as they are, and normalizing often
enough always leads to the path without any blanks and slashes at its end
(`normalize_normalize_iff`).
-/

namespace ApiAccord.EndpointPath

open Text.Chars (dropEndWhile splitAt? trimBy)

variable {q r : Char → Bool} {cs : List Char} {c : Char} {p : String}

/-! ## Dropping from the end -/

/-- Drops characters of a class from the end; where all would go, the first one stays. -/
def dropEnd (q : Char → Bool) (cs : List Char) : List Char :=
  if dropEndWhile q cs = [] then cs.take 1 else dropEndWhile q cs

theorem dropEnd_prefix_self (q : Char → Bool) (cs : List Char) : dropEnd q cs <+: cs := by
  unfold dropEnd
  split
  · exact List.take_prefix 1 cs
  · exact Text.Chars.dropEndWhile_prefix_self q cs

theorem take_dropEnd (q : Char → Bool) (cs : List Char) : (dropEnd q cs).take 1 = cs.take 1 := by
  unfold dropEnd
  split
  · exact List.take_take.trans (by simp)
  · next hne =>
    obtain ⟨rest, hr⟩ := Text.Chars.dropEndWhile_prefix_self q cs
    obtain ⟨c, kept, hk⟩ := List.exists_cons_of_ne_nil hne
    rw [hk] at hr ⊢
    rw [← hr]
    rfl

theorem dropEndWhile_append_of_all (front : List Char) (h : ∀ c ∈ cs, q c = true) :
    dropEndWhile q (front ++ cs) = dropEndWhile q front := by
  rw [dropEndWhile, List.reverse_append,
    List.dropWhile_append_of_pos fun c hc => h c (List.mem_reverse.1 hc)]
  rfl

theorem dropEndWhile_dropEndWhile (h : ∀ c, q c = true → r c = true) (cs : List Char) :
    dropEndWhile r (dropEndWhile q cs) = dropEndWhile r cs := by
  have split : dropEndWhile q cs ++ cs.rtakeWhile q = cs := List.rdropWhile_append_rtakeWhile
  conv_rhs => rw [← split]
  exact (dropEndWhile_append_of_all _ fun c hc => h c (List.mem_rtakeWhile_imp hc)).symm

/-- What a class has dropped makes no difference to a larger one. -/
theorem dropEnd_dropEnd (h : ∀ c, q c = true → r c = true) (cs : List Char) :
    dropEnd r (dropEnd q cs) = dropEnd r cs := by
  have same : dropEndWhile r (dropEnd q cs) = dropEndWhile r cs := by
    unfold dropEnd
    split
    · next hnil =>
      have all : ∀ c ∈ cs, r c = true := fun c hc => h c (List.rdropWhile_eq_nil_iff.1 hnil c hc)
      have first : dropEndWhile r (cs.take 1) = [] :=
        List.rdropWhile_eq_nil_iff.2 fun c hc => all c (List.mem_of_mem_take hc)
      exact first.trans (List.rdropWhile_eq_nil_iff.2 all).symm
    · exact dropEndWhile_dropEndWhile h cs
  rw [dropEnd.eq_def r (dropEnd q cs), same, take_dropEnd, ← dropEnd]

/-- Nothing is dropped from a single character, nor if the last one is not of the class. -/
theorem dropEnd_concat_eq_self_iff {front : List Char} :
    dropEnd q (front ++ [c]) = front ++ [c] ↔ front = [] ∨ q c = false := by
  by_cases hc : q c = true
  · have shorter : dropEndWhile q (front ++ [c]) = dropEndWhile q front :=
      dropEndWhile_append_of_all front (List.forall_mem_singleton.2 hc)
    have length := (Text.Chars.dropEndWhile_prefix_self q front).length_le
    rw [dropEnd, shorter]
    simp only [hc, Bool.true_eq_false, or_false]
    constructor
    · intro h
      split at h
      · simpa using congrArg List.length h
      · rw [h, List.length_append, List.length_singleton] at length
        omega
    · rintro rfl
      rfl
  · have kept : dropEndWhile q (front ++ [c]) = front ++ [c] :=
      List.rdropWhile_concat_neg q front c hc
    rw [dropEnd, kept, if_neg (by simp)]
    simp [hc]

/-! ## What is normalized -/

/-- Blanks and slashes. -/
def isMargin (c : Char) : Bool := Text.isBlank c || c == '/'

/-- A path without query, fragment and the blanks around it. -/
def bare (cs : List Char) : List Char :=
  trimBy Text.isBlank (splitAt? '#' (splitAt? '?' cs).1).1

/-- A path without query, fragment, and all blanks and slashes at its end. -/
def settledChars (cs : List Char) : List Char := dropEnd isMargin (bare cs)

theorem dropTrailingSlashes_eq (cs : List Char) :
    dropTrailingSlashes cs = dropEnd (· == '/') cs := by
  rcases cs with _ | ⟨c, _ | ⟨d, rest⟩⟩
  · rfl
  · by_cases hc : c = '/' <;> simp [dropTrailingSlashes, dropEnd, dropEndWhile, hc]
  · unfold dropTrailingSlashes dropEnd
    rw [if_neg (by simp)]
    split
    · next hnil =>
      have first := List.rdropWhile_eq_nil_iff.1 hnil c List.mem_cons_self
      rw [if_pos hnil, beq_iff_eq.1 first]
      rfl
    · next hne =>
      rw [if_neg hne]

theorem normalizeChars_eq (cs : List Char) : normalizeChars cs = dropEnd (· == '/') (bare cs) :=
  dropTrailingSlashes_eq _

theorem bare_eq (cs : List Char) : bare cs =
    trimBy Text.isBlank ((cs.takeWhile (· != '?')).takeWhile (· != '#')) := by
  rw [bare, Text.Chars.splitAt?_fst, Text.Chars.splitAt?_fst]

theorem bare_infix_self (cs : List Char) : bare cs <:+: cs := by
  rw [bare_eq]
  exact (Text.Chars.trimBy_infix _ _).trans
    ((List.takeWhile_prefix _).trans (List.takeWhile_prefix _)).isInfix

/-- Neither a query nor a fragment is left. -/
theorem ne_of_mem_bare (h : c ∈ bare cs) : c ≠ '?' ∧ c ≠ '#' := by
  rw [bare_eq] at h
  have hc := (Text.Chars.trimBy_infix _ _).subset h
  have first := (List.takeWhile_prefix _).subset hc
  exact ⟨by simpa using List.mem_takeWhile_imp first, by simpa using List.mem_takeWhile_imp hc⟩

theorem dropWhile_bare (cs : List Char) : (bare cs).dropWhile Text.isBlank = bare cs :=
  Text.Chars.dropWhile_trimBy _ _

theorem dropEndWhile_bare (cs : List Char) : dropEndWhile Text.isBlank (bare cs) = bare cs :=
  Text.Chars.dropEndWhile_trimBy _ _

theorem normalizeChars_prefix_bare (cs : List Char) : normalizeChars cs <+: bare cs :=
  normalizeChars_eq cs ▸ dropEnd_prefix_self _ _

/-- A normalized path does not begin with a blank. -/
theorem head_normalizeChars (cs : List Char) (h : c ∈ (normalizeChars cs).head?) :
    Text.isBlank c = false := by
  obtain ⟨rest, hr⟩ := List.head?_eq_some_iff.1 h
  obtain ⟨tail, ht⟩ := normalizeChars_prefix_bare cs
  have kept := dropWhile_bare cs
  rw [← ht, hr, List.cons_append] at kept
  rw [Bool.eq_false_iff]
  intro hc
  rw [List.dropWhile_cons_of_pos hc] at kept
  have length := (List.dropWhile_suffix (l := rest ++ tail) Text.isBlank).length_le
  rw [kept, List.length_cons] at length
  omega

/-- Before its slashes, a normalized path loses nothing but blanks at its end. -/
theorem bare_normalizeChars (cs : List Char) :
    bare (normalizeChars cs) = dropEnd Text.isBlank (normalizeChars cs) := by
  have marks : ∀ d ∈ normalizeChars cs, d ≠ '?' ∧ d ≠ '#' := fun d hd =>
    ne_of_mem_bare ((normalizeChars_prefix_bare cs).subset hd)
  have query : (normalizeChars cs).takeWhile (· != '?') = normalizeChars cs :=
    List.takeWhile_eq_self_iff.2 fun d hd => by simpa using (marks d hd).1
  have fragment : (normalizeChars cs).takeWhile (· != '#') = normalizeChars cs :=
    List.takeWhile_eq_self_iff.2 fun d hd => by simpa using (marks d hd).2
  rw [bare_eq, query, fragment]
  cases hn : normalizeChars cs with
  | nil => rfl
  | cons d rest =>
    have head : Text.isBlank d = false := head_normalizeChars cs (by rw [hn]; rfl)
    rw [trimBy, List.dropWhile_cons_of_neg (by simp [head]), dropEnd, if_neg fun hnil => ?_]
    rw [List.rdropWhile_eq_nil_iff.1 hnil d List.mem_cons_self] at head
    cases head

/-! ## Normalizing twice -/

theorem normalizeChars_normalizeChars (cs : List Char) : normalizeChars (normalizeChars cs) =
    dropEnd (· == '/') (dropEnd Text.isBlank (normalizeChars cs)) := by
  rw [normalizeChars_eq (normalizeChars cs), bare_normalizeChars]

/-- What is normalized stays as it is if there are no blanks at its end. -/
theorem normalizeChars_fixed_iff : normalizeChars (normalizeChars cs) = normalizeChars cs ↔
    dropEnd Text.isBlank (normalizeChars cs) = normalizeChars cs := by
  rw [normalizeChars_normalizeChars]
  constructor
  · intro h
    have part := dropEnd_prefix_self (· == '/') (dropEnd Text.isBlank (normalizeChars cs))
    rw [h] at part
    exact (dropEnd_prefix_self _ _).eq_of_length_le part.length_le
  · intro h
    rw [h, normalizeChars_eq, dropEnd_dropEnd fun _ => id]

/-- Slashes at the end, with a blank before them. -/
def SlashesAfterBlank (cs : List Char) : Prop := ∃ front blank slashes,
  bare cs = front ++ blank :: slashes ∧ Text.isBlank blank = true ∧ slashes ≠ [] ∧
    ∀ d ∈ slashes, d = '/'

/-- A blank is at the end of a normalized path if it stood before slashes. -/
theorem slashesAfterBlank_iff : SlashesAfterBlank cs ↔
    ∃ front blank, normalizeChars cs = front ++ [blank] ∧ Text.isBlank blank = true := by
  rw [normalizeChars_eq]
  constructor
  · rintro ⟨front, blank, slashes, hb, blank_is, -, slash⟩
    refine ⟨front, blank, ?_, blank_is⟩
    have ordinary : (blank == '/') = false := by
      rw [beq_eq_false_iff_ne]
      rintro rfl
      cases blank_is
    have kept : dropEndWhile (· == '/') (bare cs) = front ++ [blank] := by
      rw [hb, List.append_cons, dropEndWhile_append_of_all _ (by simpa using slash)]
      exact List.rdropWhile_concat_neg _ _ _ (by simp [ordinary])
    rw [dropEnd, kept, if_neg (by simp)]
  · rintro ⟨front, blank, hn, blank_is⟩
    have split : dropEndWhile (· == '/') (bare cs) ++ (bare cs).rtakeWhile (· == '/') = bare cs :=
      List.rdropWhile_append_rtakeWhile
    have kept : dropEndWhile (· == '/') (bare cs) = front ++ [blank] := by
      rw [dropEnd] at hn
      split at hn
      · next hnil =>
        have mem : blank ∈ (bare cs).take 1 := hn ▸ List.mem_append_right _ List.mem_cons_self
        have slash := List.rdropWhile_eq_nil_iff.1 hnil blank (List.mem_of_mem_take mem)
        rw [beq_iff_eq.1 slash] at blank_is
        cases blank_is
      · exact hn
    rw [kept, List.append_assoc, List.singleton_append] at split
    refine ⟨front, blank, _, split.symm, blank_is, fun hnil => ?_,
      fun d hd => beq_iff_eq.1 (List.mem_rtakeWhile_imp (p := (· == '/')) hd)⟩
    -- Without slashes the blank would be at the end, from which blanks were dropped.
    have last := dropEndWhile_bare cs
    rw [← split, hnil] at last
    have shorter : dropEndWhile Text.isBlank (front ++ [blank]) = dropEndWhile Text.isBlank front :=
      dropEndWhile_append_of_all front (List.forall_mem_singleton.2 blank_is)
    have length := (Text.Chars.dropEndWhile_prefix_self Text.isBlank front).length_le
    rw [← shorter, last, List.length_append, List.length_singleton] at length
    omega

theorem normalizeChars_twice_iff :
    normalizeChars (normalizeChars cs) = normalizeChars cs ↔ ¬ SlashesAfterBlank cs := by
  rw [normalizeChars_fixed_iff, slashesAfterBlank_iff]
  rcases List.eq_nil_or_concat (normalizeChars cs) with hn | ⟨front, last, hn⟩
  · simp [hn, dropEnd, dropEndWhile]
  · rw [List.concat_eq_append] at hn
    have single : front = [] → Text.isBlank last = false := fun hf => by
      refine head_normalizeChars cs ?_
      rw [hn, hf]
      rfl
    rw [hn, dropEnd_concat_eq_self_iff, or_iff_right_of_imp single]
    constructor
    · rintro ordinary ⟨front', blank, he, blank_is⟩
      obtain ⟨-, hb⟩ := List.append_inj' he rfl
      rw [← List.singleton_inj.1 hb, ordinary] at blank_is
      cases blank_is
    · intro h
      rw [Bool.eq_false_iff]
      exact fun blank_is => h ⟨front, last, rfl, blank_is⟩

/-! ## Normalizing often -/

theorem settledChars_normalizeChars (cs : List Char) :
    settledChars (normalizeChars cs) = settledChars cs := by
  have blank : ∀ c, Text.isBlank c = true → isMargin c = true := fun c h => by simp [isMargin, h]
  have slash : ∀ c, (c == '/') = true → isMargin c = true := fun c h => by
    simp only [isMargin, h, Bool.or_true]
  rw [settledChars, bare_normalizeChars, dropEnd_dropEnd blank, normalizeChars_eq,
    dropEnd_dropEnd slash, settledChars]

/-- Normalizing makes a path shorter, or there is nothing left to drop. -/
theorem length_normalizeChars_lt_or (cs : List Char) :
    (normalizeChars cs).length < cs.length ∨ normalizeChars cs = cs ∧ settledChars cs = cs := by
  rcases lt_or_ge (normalizeChars cs).length cs.length with h | h
  · exact .inl h
  · have whole : bare cs = cs := (bare_infix_self cs).eq_of_length_le
      (h.trans (normalizeChars_prefix_bare cs).length_le)
    have fixed : normalizeChars cs = cs := by
      have part := normalizeChars_prefix_bare cs
      rw [whole] at part
      exact part.eq_of_length_le h
    have slashes : dropEnd (· == '/') cs = cs := by
      rwa [normalizeChars_eq, whole] at fixed
    have blanks : dropEnd Text.isBlank cs = cs := by
      have := bare_normalizeChars cs
      rwa [fixed, whole, eq_comm] at this
    refine .inr ⟨fixed, ?_⟩
    rw [settledChars, whole]
    rcases List.eq_nil_or_concat cs with rfl | ⟨front, last, rfl⟩
    · rfl
    · rw [List.concat_eq_append, dropEnd_concat_eq_self_iff] at *
      simp only [isMargin, Bool.or_eq_false_iff]
      tauto

/-- Normalizing often enough leads to the settled path, which stays. -/
theorem exists_iterate_normalizeChars (cs : List Char) :
    normalizeChars (settledChars cs) = settledChars cs ∧
      ∃ n, normalizeChars^[n] cs = settledChars cs := by
  induction hl : cs.length using Nat.strong_induction_on generalizing cs with
  | _ length ih =>
    rcases length_normalizeChars_lt_or cs with shorter | ⟨fixed, settled⟩
    · obtain ⟨stays, n, hn⟩ := ih _ (hl ▸ shorter) (normalizeChars cs) rfl
      rw [settledChars_normalizeChars] at stays hn
      exact ⟨stays, n + 1, hn⟩
    · exact ⟨by rw [settled, fixed], 0, settled.symm⟩

/-! ## Paths -/

/-- The path without query, fragment, and all blanks and slashes at its end; a slash alone stays. -/
def settled (p : String) : String := String.ofList (settledChars p.toList)

theorem toList_normalize (p : String) : (normalize p).toList = normalizeChars p.toList :=
  String.toList_ofList

theorem normalize_eq_iff {p' : String} :
    normalize p = p' ↔ normalizeChars p.toList = p'.toList := by
  rw [← String.toList_inj, toList_normalize]

/-- A normalized path is normalized again without a change just if no blank stands before slashes
at its end; and normalizing often enough drops all blanks and slashes at the end of any path. -/
theorem normalize_normalize_iff (p : String) :
    (normalize (normalize p) = normalize p ↔ ¬ SlashesAfterBlank p.toList) ∧
    normalize (settled p) = settled p ∧
    ∃ n, ∀ m, n ≤ m → normalize^[m] p = settled p := by
  obtain ⟨stays, n, hn⟩ := exists_iterate_normalizeChars p.toList
  have stays' : normalize (settled p) = settled p := by
    rw [normalize_eq_iff, settled, String.toList_ofList, stays]
  refine ⟨?_, stays', n, fun m hm => ?_⟩
  · rw [normalize_eq_iff, toList_normalize, normalizeChars_twice_iff]
  · have reached : normalize^[n] p = settled p := by
      have both := Function.Semiconj.iterate_right (f := String.toList) toList_normalize n p
      rw [← String.toList_inj, both, hn, settled, String.toList_ofList]
    obtain ⟨k, rfl⟩ := Nat.exists_eq_add_of_le' hm
    rw [Function.iterate_add_apply, reached, Function.iterate_fixed stays']

/-- A blank before the last slash is dropped by normalizing again. -/
theorem normalize_normalize_ne_slashAfterBlank :
    normalize (normalize "/a /") ≠ normalize "/a /" := by decide

end ApiAccord.EndpointPath
