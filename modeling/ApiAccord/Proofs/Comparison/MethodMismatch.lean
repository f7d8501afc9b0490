import ApiAccord.Proofs.Comparison.Kinds
import ApiAccord.Proofs.Surface

/-!
# Methods that one side lacks

`mem_methodMismatches_iff` says which sides, paths and methods a comparison reports: those of the
pairs of a source endpoint and its first equivalent on the target, where both endpoints show a
method at all.
-/

namespace ApiAccord

namespace Comparison

variable {o : CheckOptions} {source target side A B : Surface} {extra : Option Spec}
  {degraded : List String} {i : Issue} {e other : SurfaceEndpoint} {m : String}

/-- The side, the path and the method of every issue about a method that one side lacks. -/
def methodMismatches (c : Comparison) : List (Option String × Option String × Option String) :=
  (c.issues.filter (·.kind == .methodMismatch)).map fun i =>
    (i.location.bind (·.side), i.path, i.method)

/-- `e` has a method that `other`, which shows methods, does not. -/
def MethodGap (e other : SurfaceEndpoint) (m : String) : Prop :=
  m ∈ e.regularMethods ∧ m ∉ other.regularMethods ∧ other.regularMethods ≠ []

/-- Of all steps, only the comparison of methods finds mismatches of methods. -/
theorem mem_allIssues_methodMismatch_iff :
    i ∈ allIssues o source target extra ∧ i.kind = .methodMismatch ↔
      i ∈ methodIssues o source target := by
  rw [← mem_ofKind_iff, ofKind_allIssues]
  rfl

/-! ## What is reported -/

theorem mem_methodsWithout_iff :
    m ∈ methodsWithout e other ↔ m ∈ e.regularMethods ∧ m ∉ other.regularMethods := by
  simp [methodsWithout]

theorem methodLocation_side : (methodLocation side e m).side = some side.label := by
  unfold methodLocation
  split <;> rfl

/-- The sides, paths and methods in the issues of a pair. -/
theorem mem_pairIssues_iff {p : EndpointPair} {t : Option String × Option String × Option String} :
    (∃ i ∈ pairIssues o source target p, (i.location.bind (·.side), i.path, i.method) = t) ↔
      ∃ m, (MethodGap p.1 p.2 m ∧ t = (some source.label, some p.1.path, some m)) ∨
        (MethodGap p.2 p.1 m ∧ t = (some target.label, some p.2.path, some m)) := by
  unfold pairIssues
  by_cases he : p.1.regularMethods.isEmpty || p.2.regularMethods.isEmpty
  · rw [if_pos he]
    simp only [List.not_mem_nil, false_and, exists_false, false_iff, not_exists]
    rintro m (⟨⟨hm, -, hne⟩, -⟩ | ⟨⟨hm, -, hne⟩, -⟩)
    · simp [hne, List.ne_nil_of_mem hm] at he
    · simp [hne, List.ne_nil_of_mem hm] at he
  · rw [if_neg he]
    simp only [Bool.or_eq_true, List.isEmpty_iff, not_or] at he
    constructor
    · rintro ⟨i, hi, rfl⟩
      rcases List.mem_append.1 hi with h | h
      · obtain ⟨m, hm, rfl⟩ := List.mem_map.1 h
        obtain ⟨hm, hn⟩ := mem_methodsWithout_iff.1 hm
        exact ⟨m, .inl ⟨⟨hm, hn, he.2⟩, by simp [issue, methodLocation_side]⟩⟩
      · obtain ⟨m, hm, rfl⟩ := List.mem_map.1 h
        obtain ⟨hm, hn⟩ := mem_methodsWithout_iff.1 hm
        exact ⟨m, .inr ⟨⟨hm, hn, he.1⟩, by simp [issue, methodLocation_side]⟩⟩
    · rintro ⟨m, ⟨⟨hm, hn, -⟩, rfl⟩ | ⟨⟨hm, hn, -⟩, rfl⟩⟩
      · refine ⟨_, List.mem_append_left _
          (List.mem_map.2 ⟨m, mem_methodsWithout_iff.2 ⟨hm, hn⟩, rfl⟩), ?_⟩
        simp [issue, methodLocation_side]
      · refine ⟨_, List.mem_append_right _
          (List.mem_map.2 ⟨m, mem_methodsWithout_iff.2 ⟨hm, hn⟩, rfl⟩), ?_⟩
        simp [issue, methodLocation_side]

/-- A comparison that returns warnings reports the gaps of all pairs, in either direction. -/
theorem mem_methodMismatches_iff (on : o.includeWarnings = true)
    {t : Option String × Option String × Option String} :
    t ∈ methodMismatches (compare o source target extra degraded) ↔
      ∃ p ∈ pairs source target, ∃ m,
        (MethodGap p.1 p.2 m ∧ t = (some source.label, some p.1.path, some m)) ∨
          (MethodGap p.2 p.1 m ∧ t = (some target.label, some p.2.path, some m)) := by
  simp only [methodMismatches, issues_compare on, List.mem_map, List.mem_filter, beq_iff_eq,
    mem_allIssues_methodMismatch_iff, ← mem_pairIssues_iff (o := o), methodIssues,
    List.mem_flatMap]
  constructor
  · rintro ⟨i, ⟨p, hp, hi⟩, ht⟩
    exact ⟨p, hp, i, hi, ht⟩
  · rintro ⟨p, hp, i, hi, ht⟩
    exact ⟨i, ⟨p, hp, hi⟩, ht⟩

theorem mem_pairs_iff {a b : SurfaceEndpoint} :
    (a, b) ∈ pairs A B ↔ a ∈ A.endpoints ∧ B.find a.path = some b := by
  simp only [pairs, List.mem_filterMap, Option.map_eq_some_iff, Prod.mk.injEq]
  constructor
  · rintro ⟨_, ha, _, hb, rfl, rfl⟩
    exact ⟨ha, hb⟩
  · rintro ⟨ha, hb⟩
    exact ⟨a, ha, b, hb, rfl, rfl⟩

end Comparison

end ApiAccord
