import ApiAccord.Proofs.Surface
import ApiAccord.Report
import Mathlib.Algebra.BigOperators.Group.List.Lemmas
import Mathlib.Algebra.GroupWithZero.Nat
import Mathlib.Data.List.Dedup

/-!
# Recommendations account for every issue

Issues are grouped by their kind, custom ones by their rule as well, and each group has one
recommendation, which says how many issues there are in the group.  Recommendations of high
priority come first; of those with the same priority, the one whose first issue stands earlier comes
first, and the review that a low score calls for comes after all groups
(`recommend_accounts_for_issues`).
-/

namespace ApiAccord

/-! ## First occurrences -/

section FirstOccurrence

variable {α : Type*} [BEq α] [LawfulBEq α]

/-- Different elements are listed in the order in which they first occur. -/
theorem pairwise_idxOf_eraseDups (as : List α) :
    as.eraseDups.Pairwise fun a b => as.idxOf a < as.idxOf b := by
  induction as using List.reverseRecOn with
  | nil => exact .nil
  | append_singleton as a ih =>
    have early {b : α} (hb : b ∈ as.eraseDups) : (as ++ [a]).idxOf b = as.idxOf b :=
      List.idxOf_append_of_mem (List.mem_eraseDups.1 hb)
    have kept : as.eraseDups.Pairwise fun b c => (as ++ [a]).idxOf b < (as ++ [a]).idxOf c := by
      apply ih.imp_of_mem
      intro b c hb hc lt
      rwa [early hb, early hc]
    by_cases h : a ∈ as
    · rwa [eraseDups_concat_of_mem h]
    · rw [eraseDups_concat_of_notMem h, List.pairwise_append]
      refine ⟨kept, List.pairwise_singleton _ a, fun b hb c hc => ?_⟩
      obtain rfl := List.mem_singleton.1 hc
      rw [early hb, List.idxOf_append_of_notMem h]
      have := List.idxOf_lt_length_of_mem (List.mem_eraseDups.1 hb)
      omega

/-- Each element is counted once. -/
theorem sum_count_eraseDups (as : List α) : (as.eraseDups.map as.count).sum = as.length := by
  classical
  have same : as.eraseDups.Perm as.dedup := by
    apply (List.perm_ext_iff_of_nodup (nodup_eraseDups as) (List.nodup_dedup as)).2
    intro a
    rw [List.mem_eraseDups, List.mem_dedup]
  have equality : ‹BEq α› = instBEqOfDecidableEq := lawful_beq_subsingleton _ _
  rw [(same.map as.count).sum_eq, ← List.sum_map_count_dedup_eq_length as, equality]

end FirstOccurrence

/-! ## What recommendations are about -/

/-- What a recommendation is about: a group of issues, or the interface as a whole. -/
inductive Subject where
  | group (g : IssueKind × String)
  | review (score : ℕ)

namespace Subject

/-- The number of issues that belong to a subject. -/
def size (issues : List Issue) : Subject → ℕ
  | group g => issues.countP fun i => i.group == g
  | review _ => 0

/-- Where the first issue of a subject stands; the interface as a whole comes after all issues. -/
def place (issues : List Issue) : Subject → ℕ
  | group g => (issues.map Issue.group).idxOf g
  | review _ => issues.length

/-- What a recommendation says about its subject: about a group, how many issues there are in it,
with high priority just if one of them is an error, and the priority of its category otherwise. -/
def Advises (issues : List Issue) : Subject → Recommendation → Prop
  | group g, r =>
    r.category = (g.1.advice g.2).category ∧
      r.text = (g.1.advice g.2).text (size issues (group g)) ∧
      r.action = (g.1.advice g.2).action ∧
      (r.priority = .high ↔ ∃ i ∈ issues, i.group = g ∧ i.severity = .error) ∧
      (r.priority ≠ .high → r.priority = (g.1.advice g.2).priority)
  | review score, r => r = recommendReview score ∧ r.priority = .high

/-- The recommendation about a subject. -/
def recommendation (issues : List Issue) : Subject → Recommendation
  | group g => recommendGroup issues g
  | review score => recommendReview score

end Subject

/-- How far from the front recommendations of a priority stand. -/
def Priority.rank : Priority → ℕ
  | .high => 0
  | .medium => 1
  | .low => 2

/-- The first recommendation has a higher priority than the second, or the same one and a subject
that occurs earlier. -/
def Precedes (issues : List Issue) (e e' : Subject × Recommendation) : Prop :=
  e.2.priority.rank < e'.2.priority.rank ∨
    e.2.priority = e'.2.priority ∧ e.1.place issues < e'.1.place issues

/-- The subjects that issues and a score give rise to, in the order in which they occur. -/
def subjects (issues : List Issue) (score : Option ℕ) : List Subject :=
  (issueGroups issues).map .group ++ (score.filter (· < lowScore)).toList.map .review

variable {issues : List Issue} {score : Option ℕ} {g : IssueKind × String}

/-! ## The recommendation about one subject -/

/-- No category has high priority by itself. -/
theorem IssueKind.priority_advice_ne_high (k : IssueKind) (rule : String) :
    (k.advice rule).priority ≠ .high := by
  cases k <;> exact Priority.noConfusion

theorem advises_recommendation (issues : List Issue) (s : Subject) :
    s.Advises issues (s.recommendation issues) := by
  cases s with
  | review n => exact ⟨rfl, rfl⟩
  | group g =>
    have own := g.1.priority_advice_ne_high g.2
    have errors : (issues.filter fun i => i.group == g).any (·.severity == .error) = true ↔
        ∃ i ∈ issues, i.group = g ∧ i.severity = .error := by
      simp
    have count : (issues.filter fun i => i.group == g).length = Subject.size issues (.group g) :=
      List.countP_eq_length_filter.symm
    have priority : (recommendGroup issues g).priority =
        if ∃ i ∈ issues, i.group = g ∧ i.severity = .error then .high
        else (g.1.advice g.2).priority :=
      if_congr errors rfl rfl
    have high_iff : (recommendGroup issues g).priority = .high ↔
        ∃ i ∈ issues, i.group = g ∧ i.severity = .error := by
      rw [priority, ite_eq_left_iff]
      exact ⟨fun h => by_contra fun none => own (h none), fun some none => absurd some none⟩
    refine ⟨rfl, congrArg _ count, rfl, high_iff, fun low => ?_⟩
    exact priority.trans (if_neg (mt high_iff.2 low))

/-! ## The subjects in order -/

theorem group_mem_subjects_iff : .group g ∈ subjects issues score ↔ ∃ i ∈ issues, i.group = g := by
  simp [subjects, issueGroups]

theorem review_mem_subjects_iff {n : ℕ} :
    .review n ∈ subjects issues score ↔ score = some n ∧ n < lowScore := by
  simp [subjects, Option.filter_eq_some_iff]

theorem pairwise_place_subjects (issues : List Issue) (score : Option ℕ) :
    (subjects issues score).Pairwise fun s s' => s.place issues < s'.place issues := by
  rw [subjects, List.pairwise_append, List.pairwise_map]
  refine ⟨pairwise_idxOf_eraseDups _, ?_, ?_⟩
  · cases score.filter (· < lowScore) with
    | none => exact .nil
    | some n => exact List.pairwise_singleton _ _
  · -- The first issue of a group is one of the issues.
    simp only [List.mem_map, issueGroups, List.mem_eraseDups]
    rintro _ ⟨g, hg, rfl⟩ _ ⟨n, -, rfl⟩
    have := List.idxOf_lt_length_of_mem (List.mem_map.2 hg)
    rwa [List.length_map] at this

theorem sum_size_subjects (issues : List Issue) (score : Option ℕ) :
    ((subjects issues score).map (Subject.size issues)).sum = issues.length := by
  have groups : ((issueGroups issues).map fun g => Subject.size issues (.group g)).sum =
      issues.length := by
    have sum := sum_count_eraseDups (issues.map Issue.group)
    rw [List.length_map] at sum
    rw [← sum, issueGroups]
    congr 2
    funext g
    rw [List.count_eq_countP, List.countP_map]
    rfl
  rw [subjects, List.map_append, List.sum_append, List.map_map, List.map_map]
  show ((issueGroups issues).map fun g => Subject.size issues (.group g)).sum + _ = _
  rw [groups, Nat.add_eq_left]
  simp [Subject.size, Function.comp_def]

/-! ## Order of priority -/

theorem recommend_eq (issues : List Issue) (score : Option ℕ) : recommend issues score =
    byPriority ((subjects issues score).map (Subject.recommendation issues)) := by
  have groups : (issueGroups issues).map (recommendGroup issues) =
      ((issueGroups issues).map Subject.group).map (Subject.recommendation issues) := by
    rw [List.map_map]
    rfl
  rw [subjects, List.map_append, ← groups]
  unfold recommend
  cases score with
  | none => rfl
  | some n =>
    by_cases low : n < lowScore
    · have kept : (some n).filter (· < lowScore) = some n := by simp [low]
      rw [kept]
      simp only [if_pos low]
      rfl
    · have dropped : (some n).filter (· < lowScore) = none := by simpa using low
      rw [dropped]
      simp only [if_neg low]
      rfl

/-- What has equal priority keeps its order. -/
theorem exists_byPriority {α : Type} {R : α → α → Prop} (f : α → Recommendation) {l : List α}
    (h : l.Pairwise R) : ∃ l' : List α, byPriority (l.map f) = l'.map f ∧ (∀ a, a ∈ l' ↔ a ∈ l) ∧
      l'.Pairwise fun a b => (f a).priority.rank < (f b).priority.rank ∨
        (f a).priority = (f b).priority ∧ R a b := by
  have level (p : Priority) : (l.filter fun a => (f a).priority == p).Pairwise fun a b =>
      (f a).priority.rank < (f b).priority.rank ∨ (f a).priority = (f b).priority ∧ R a b := by
    apply (h.filter _).imp_of_mem
    intro a b ha hb hr
    have ha := beq_iff_eq.1 (List.mem_filter.1 ha).2
    have hb := beq_iff_eq.1 (List.mem_filter.1 hb).2
    exact .inr ⟨ha.trans hb.symm, hr⟩
  refine ⟨l.filter (fun a => (f a).priority == .high) ++
    l.filter (fun a => (f a).priority == .medium) ++
    l.filter (fun a => (f a).priority == .low), ?_, ?_, ?_⟩
  · simp only [byPriority, List.filter_map, List.map_append]
    rfl
  · intro a
    simp only [List.mem_append, List.mem_filter]
    cases (f a).priority <;> simp
  · simp only [List.pairwise_append, List.mem_append, List.mem_filter, beq_iff_eq]
    refine ⟨⟨level .high, level .medium, ?_⟩, level .low, ?_⟩
    · rintro a ⟨-, ha⟩ b ⟨-, hb⟩
      rw [ha, hb]
      exact .inl (by decide)
    · rintro a (⟨-, ha⟩ | ⟨-, ha⟩) b ⟨-, hb⟩ <;> rw [ha, hb] <;> exact .inl (by decide)

/-- Each group of issues has one recommendation, which counts its issues, and a score below 70 has
one more; their order is that of priority, then that of first occurrence. -/
theorem recommend_accounts_for_issues (issues : List Issue) (score : Option ℕ) :
    ∃ entries : List (Subject × Recommendation),
      recommend issues score = entries.map (·.2) ∧
      (∀ e ∈ entries, e.1.Advises issues e.2) ∧
      (entries.map (·.1)).Nodup ∧
      (∀ g, .group g ∈ entries.map (·.1) ↔ ∃ i ∈ issues, i.group = g) ∧
      (∀ n, .review n ∈ entries.map (·.1) ↔ score = some n ∧ n < 70) ∧
      (entries.map fun e => e.1.size issues).sum = issues.length ∧
      entries.Pairwise (Precedes issues) := by
  obtain ⟨sorted, order, same, precede⟩ := exists_byPriority (Subject.recommendation issues)
    (pairwise_place_subjects issues score)
  have nodup : sorted.Nodup := by
    apply precede.imp
    rintro s _ h rfl
    rcases h with h | ⟨-, h⟩ <;> exact lt_irrefl _ h
  have perm : sorted.Perm (subjects issues score) := by
    apply (List.perm_ext_iff_of_nodup nodup _).2 same
    apply (pairwise_place_subjects issues score).imp
    rintro s _ h rfl
    exact lt_irrefl _ h
  have fst : (sorted.map fun s => (s, s.recommendation issues)).map (·.1) = sorted := by
    rw [List.map_map]
    exact List.map_id sorted
  refine ⟨sorted.map fun s => (s, s.recommendation issues), ?_, ?_, ?_, ?_, ?_, ?_, ?_⟩
  · rw [recommend_eq, order, List.map_map]
    rfl
  · rintro e he
    obtain ⟨s, -, rfl⟩ := List.mem_map.1 he
    exact advises_recommendation issues s
  · rwa [fst]
  · intro g
    rw [fst, same, group_mem_subjects_iff]
  · intro n
    rw [fst, same, review_mem_subjects_iff]
    rfl
  · rw [List.map_map, ← sum_size_subjects issues score]
    exact (perm.map (Subject.size issues)).sum_eq
  · exact List.pairwise_map.2 precede

end ApiAccord
