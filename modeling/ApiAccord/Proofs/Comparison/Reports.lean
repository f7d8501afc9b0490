import ApiAccord.Proofs.Comparison.Kinds
import Mathlib.Data.List.Forall2

/-!
# One issue for each

Several steps of a comparison report each of certain things once: words that are no methods, type
names, parameters.  `OneForEach` says this of a list of issues.  The steps get there by keeping the
first item with each key, so the things are the keys (`oneForEach_firstBy`).
-/

namespace ApiAccord

namespace Comparison

/-! ## The first items with their keys -/

section FirstBy

variable {α κ : Type} [BEq κ] [LawfulBEq κ] {key : α → κ} {seen : List κ} {l : List α} {x : α}
  {k : κ}

/-- An item is kept if its key was not seen before and it is the first item with that key. -/
theorem mem_firstBy_iff :
    x ∈ firstBy key seen l ↔ key x ∉ seen ∧ l.find? (fun y => key y == key x) = some x := by
  induction l generalizing seen with
  | nil => simp [firstBy]
  | cons y rest ih =>
    rw [firstBy, List.find?_cons]
    -- Only a head with the key of `x` can keep `x` from being the first.
    by_cases same : key y = key x
    · rw [beq_iff_eq.2 same]
      by_cases known : key y ∈ seen
      · rw [if_pos (List.contains_iff_mem.2 known), ih]
        simp [same ▸ known]
      · rw [if_neg (mt List.contains_iff_mem.1 known), List.mem_cons, ih]
        simp [same ▸ known, same, eq_comm]
    · rw [beq_eq_false_iff_ne.2 same]
      have ne : x ≠ y := fun h => same (h ▸ rfl)
      by_cases known : key y ∈ seen
      · rw [if_pos (List.contains_iff_mem.2 known), ih]
      · rw [if_neg (mt List.contains_iff_mem.1 known), List.mem_cons, ih]
        simp [ne, Ne.symm same]

theorem nodup_map_firstBy : ((firstBy key seen l).map key).Nodup := by
  induction l generalizing seen with
  | nil => exact List.nodup_nil
  | cons y rest ih =>
    rw [firstBy]
    split
    · exact ih
    · rw [List.map_cons, List.nodup_cons]
      refine ⟨fun h => ?_, ih⟩
      obtain ⟨x, hx, same⟩ := List.mem_map.1 h
      exact (mem_firstBy_iff.1 hx).1 (same ▸ List.mem_cons_self)

/-- Every key has a first item. -/
theorem mem_map_firstBy_iff : k ∈ (firstBy key [] l).map key ↔ ∃ x ∈ l, key x = k := by
  rw [List.mem_map]
  constructor
  · rintro ⟨x, hx, rfl⟩
    exact ⟨x, List.mem_of_find?_eq_some (mem_firstBy_iff.1 hx).2, rfl⟩
  · rintro ⟨x, hx, rfl⟩
    have some : (l.find? fun y => key y == key x).isSome = true :=
      List.find?_isSome.2 ⟨x, hx, beq_iff_eq.2 rfl⟩
    obtain ⟨first, found⟩ := Option.isSome_iff_exists.1 some
    have same : key first = key x := by simpa using List.find?_some found
    refine ⟨first, mem_firstBy_iff.2 ⟨List.not_mem_nil, ?_⟩, same⟩
    rw [same, found]

/-- The item that is kept for a key is the first one with it. -/
theorem find?_firstBy (new : k ∉ seen) :
    (firstBy key seen l).find? (fun x => key x == k) = l.find? fun x => key x == k := by
  induction l generalizing seen with
  | nil => rfl
  | cons y rest ih =>
    rw [firstBy]
    by_cases same : key y = k
    · rw [if_neg (mt List.contains_iff_mem.1 (same ▸ new)), List.find?_cons, List.find?_cons,
        beq_iff_eq.2 same]
    · rw [List.find?_cons, beq_eq_false_iff_ne.2 same]
      split
      · exact ih new
      · rw [List.find?_cons, beq_eq_false_iff_ne.2 same]
        exact ih (List.not_mem_cons_of_ne_of_not_mem (Ne.symm same) new)

/-- Among the items with good keys, the first one with a good key is the first of all. -/
theorem find?_filter_key {good : κ → Bool} (hk : good k = true) :
    (l.filter fun x => good (key x)).find? (fun x => key x == k) =
      l.find? fun x => key x == k := by
  rw [List.find?_filter]
  congr 1
  funext x
  by_cases same : key x = k
  · simp [same, hk]
  · simp [same]

end FirstBy

/-! ## Reports -/

section Reports

variable {α β : Type} {P : α → Prop} {R : α → Issue → Prop} {f : β → Issue} {key : β → α}
  {l : List β}

/-- Each of the things that satisfy `P` has one issue, `R` saying which, and there are no other
issues: in order, the issues are about the things in some list of them without repetition. -/
def OneForEach (P : α → Prop) (R : α → Issue → Prop) (issues : List Issue) : Prop :=
  ∃ things : List α, things.Nodup ∧ (∀ x, x ∈ things ↔ P x) ∧ List.Forall₂ R things issues

/-- Issues made of items with different keys are about the keys. -/
theorem oneForEach_map (key : β → α) (distinct : (l.map key).Nodup)
    (hP : ∀ k, k ∈ l.map key ↔ P k) (hR : ∀ x ∈ l, R (key x) (f x)) : OneForEach P R (l.map f) := by
  refine ⟨l.map key, distinct, hP, ?_⟩
  rw [List.forall₂_map_left_iff, List.forall₂_map_right_iff, List.forall₂_same]
  exact hR

/-- Issues made of the first items with their keys are about the keys. -/
theorem oneForEach_firstBy [BEq α] [LawfulBEq α] (hP : ∀ k, (∃ x ∈ l, key x = k) ↔ P k)
    (hR : ∀ x, l.find? (fun y => key y == key x) = some x → R (key x) (f x)) :
    OneForEach P R ((firstBy key [] l).map f) :=
  oneForEach_map key nodup_map_firstBy (fun k => mem_map_firstBy_iff.trans (hP k))
    fun x hx => hR x (mem_firstBy_iff.1 hx).2

/-- Issues made of the first items with their keys, among those with good keys, are about the good
keys. -/
theorem oneForEach_firstBy_filter [BEq α] [LawfulBEq α] (good : α → Bool)
    (hP : ∀ k, (∃ x ∈ l, key x = k) ∧ good k = true ↔ P k)
    (hR : ∀ x, l.find? (fun y => key y == key x) = some x → R (key x) (f x)) :
    OneForEach P R ((firstBy key [] (l.filter fun x => good (key x))).map f) := by
  refine oneForEach_firstBy (fun k => ?_) fun x found => hR x ?_
  · rw [← hP]
    constructor
    · rintro ⟨x, hx, rfl⟩
      obtain ⟨hx, hk⟩ := List.mem_filter.1 hx
      exact ⟨⟨x, hx, rfl⟩, hk⟩
    · rintro ⟨⟨x, hx, rfl⟩, hk⟩
      exact ⟨x, List.mem_filter.2 ⟨hx, hk⟩, rfl⟩
  · have hk := (List.mem_filter.1 (List.mem_of_find?_eq_some found)).2
    rwa [find?_filter_key hk] at found

/-- Reports about different things make one report. -/
theorem OneForEach.append {Q S : α → Prop} {is is' : List Issue} (h : OneForEach P R is)
    (h' : OneForEach Q R is') (apart : ∀ x, P x → ¬ Q x) (hS : ∀ x, S x ↔ P x ∨ Q x) :
    OneForEach S R (is ++ is') := by
  obtain ⟨xs, distinct, hP, each⟩ := h
  obtain ⟨ys, distinct', hQ, each'⟩ := h'
  refine ⟨xs ++ ys, List.nodup_append.2 ⟨distinct, distinct', ?_⟩, fun x => ?_,
    List.rel_append each each'⟩
  · rintro x hx _ hy rfl
    exact apart x ((hP x).1 hx) ((hQ x).1 hy)
  · rw [List.mem_append, hP, hQ, hS]

end Reports

/-! ## The issues of one kind in a comparison -/

variable {o : CheckOptions} {source target : Surface} {extra : Option Spec}
  {degraded : List String} {k : IssueKind}

/-- Of the issues of one kind, a comparison returns what it returns of those that the steps for the
kind find. -/
theorem ofKind_issues : ofKind k (compare o source target extra degraded).issues =
    o.returned (found o source target extra k) := by
  rw [← ofKind_allIssues]
  unfold compare CheckOptions.returned ofKind
  dsimp only
  split
  · rfl
  · rw [List.filter_comm]

theorem ofKind_issues_of_shown (on : o.includeWarnings = true) :
    ofKind k (compare o source target extra degraded).issues = found o source target extra k := by
  rw [ofKind_issues, CheckOptions.returned, if_pos on]

end Comparison

end ApiAccord
