import ApiAccord.Proofs.Comparison.MethodMismatch
import ApiAccord.Proofs.EndpointPath.Templates
import Mathlib.Data.List.Count
import Mathlib.Data.Option.Basic

/-!
# Which endpoints are paired, missing and extra

A comparison divides the endpoints of the source into those that it pairs with their first
equivalent on the target and those that it reports as missing, and reports as extra the target
endpoints without an equivalent on the source (`compare_divides_endpoints`).  That an endpoint was
taken up by a pair is no further reason against calling it extra: such an endpoint has an equivalent
(`extraEndpoints_eq`).  So what is missing in one order of the sides is extra in the other.
-/

namespace ApiAccord

namespace Comparison

open EndpointPath (equivalent equivalent_comm)

variable {o : CheckOptions} {A B : Surface} {extra : Option Spec} {degraded : List String}
  {path : String} {a b : SurfaceEndpoint}

/-! ## First equivalents -/

/-- `b` is the first of some endpoints that is equivalent to a path. -/
def IsFirstEquivalent (endpoints : List SurfaceEndpoint) (path : String) (b : SurfaceEndpoint) :
    Prop :=
  ∃ before after, endpoints = before ++ b :: after ∧ equivalent path b.path = true ∧
    ∀ x ∈ before, equivalent path x.path = false

theorem find_eq_some_iff_isFirstEquivalent :
    B.find path = some b ↔ IsFirstEquivalent B.endpoints path b := by
  rw [Surface.find, List.find?_eq_some_iff_append]
  constructor
  · rintro ⟨hb, before, after, hs, hn⟩
    refine ⟨before, after, hs, ?_, fun x hx => ?_⟩
    · rw [equivalent_comm]
      exact hb
    · rw [equivalent_comm]
      simpa using hn x hx
  · rintro ⟨before, after, hs, hb, hn⟩
    refine ⟨?_, before, after, hs, fun x hx => ?_⟩
    · rw [equivalent_comm]
      exact hb
    · rw [equivalent_comm, hn x hx]
      rfl

theorem find_eq_none_iff :
    B.find path = none ↔ ∀ b ∈ B.endpoints, equivalent path b.path = false := by
  rw [Surface.find, List.find?_eq_none]
  refine forall₂_congr fun b _ => ?_
  rw [equivalent_comm, Bool.not_eq_true]

theorem find_isNone_iff :
    (B.find path).isNone = true ↔ ¬ ∃ b ∈ B.endpoints, equivalent b.path path = true := by
  rw [Option.isNone_iff_eq_none, Surface.find, List.find?_eq_none]
  simp

theorem equivalent_of_find (h : B.find path = some b) : equivalent b.path path = true := by
  rw [Surface.find] at h
  exact List.find?_some (p := fun e : SurfaceEndpoint => equivalent e.path path) h

/-! ## Pairs -/

/-- An endpoint enters pairs with its first equivalent only, as often as it is listed. -/
theorem pairs_filter_eq (a : SurfaceEndpoint) :
    (pairs A B).filter (fun p => p.1 == a) =
      match B.find a.path with
      | some b => List.replicate (A.endpoints.count a) (a, b)
      | none => [] := by
  unfold pairs
  induction A.endpoints with
  | nil => cases B.find a.path <;> rfl
  | cons e rest ih =>
    by_cases he : e = a
    · subst he
      cases hf : B.find e.path with
      | none => simpa [hf] using ih
      | some b => simpa [hf, List.replicate_succ] using ih
    · rw [List.count_cons_of_ne he]
      cases hf : B.find e.path with
      | none => simpa [hf] using ih
      | some b => simpa [hf, he] using ih

/-! ## Missing and extra endpoints -/

/-- A target endpoint is extra exactly if it would be missing were the sides exchanged. -/
theorem extraEndpoints_eq : extraEndpoints A B = missingEndpoints B A := by
  unfold extraEndpoints missingEndpoints
  refine List.filter_congr fun e _ => ?_
  by_cases hn : (A.find e.path).isNone = true
  · -- The partner of a pair has an equivalent, the other endpoint of the pair.
    have free : e.path ∉ (pairs A B).map fun p => p.2.path := by
      intro h
      obtain ⟨⟨a, b⟩, hp, hb⟩ := List.mem_map.1 h
      obtain ⟨ha, hf⟩ := mem_pairs_iff.1 hp
      have he : equivalent a.path e.path = true := by
        rw [equivalent_comm, ← hb]
        exact equivalent_of_find hf
      exact find_isNone_iff.1 hn ⟨a, ha, he⟩
    simp [hn, free]
  · simp [hn]

/-- The paths in the issues of one kind, in order. -/
def reportedPaths (k : IssueKind) (c : Comparison) : List (Option String) :=
  (ofKind k c.issues).map (·.path)

/-- The paths of a side that have no equivalent on the other one, in order. -/
def unmatchedPaths (side other : Surface) : List String :=
  side.paths.filter fun p => (other.find p).isNone

theorem paths_missingEndpoints :
    (missingEndpoints A B).map (·.path) = unmatchedPaths A B := by
  rw [missingEndpoints, unmatchedPaths, Surface.paths, List.filter_map]
  rfl

theorem reportedPaths_missing (on : o.includeWarnings = true) :
    reportedPaths .endpointMissing (compare o A B extra degraded) =
      (unmatchedPaths A B).map some := by
  rw [reportedPaths, issues_compare on, ofKind_allIssues, ← paths_missingEndpoints, found,
    List.map_map, List.map_map]
  rfl

theorem reportedPaths_extra (on : o.includeWarnings = true) :
    reportedPaths .endpointExtra (compare o A B extra degraded) =
      (unmatchedPaths B A).map some := by
  rw [reportedPaths, issues_compare on, ofKind_allIssues, ← paths_missingEndpoints,
    ← extraEndpoints_eq, found, List.map_map, List.map_map]
  rfl

/-- A path without an equivalent occurs as often as the side lists it, any other one not at all. -/
theorem count_unmatchedPaths (path : String) :
    ((unmatchedPaths A B).map some).count (some path) =
      if (B.find path).isNone then A.paths.count path else 0 := by
  rw [List.count_map_of_injective _ _ (Option.some_injective _), unmatchedPaths]
  split
  · next h => exact List.count_filter h
  · next h =>
    refine List.count_eq_zero.2 fun hm => ?_
    exact h (List.mem_filter.1 hm).2

/-- Every source endpoint either enters a pair with its first equivalent on the target, or is
reported as missing, in either case as often as it is listed; a target endpoint is reported as
extra, as often, exactly if no source endpoint is equivalent to it; and the paths missing in one
order of the sides are those extra in the other, in order: the paths without an equivalent.  The
surfaces of code and of specifications list every path once (`nodup_paths_endpointsOf`). -/
theorem compare_divides_endpoints (o : CheckOptions) (on : o.includeWarnings = true)
    (A B : Surface) (extra : Option Spec) (degraded : List String) :
    (∀ a ∈ A.endpoints,
      (∃ b, IsFirstEquivalent B.endpoints a.path b ∧
        (pairs A B).filter (fun p => p.1 == a) = List.replicate (A.endpoints.count a) (a, b) ∧
        (reportedPaths .endpointMissing (compare o A B extra degraded)).count (some a.path) = 0) ∨
      ((∀ b ∈ B.endpoints, equivalent a.path b.path = false) ∧
        (pairs A B).filter (fun p => p.1 == a) = [] ∧
        (reportedPaths .endpointMissing (compare o A B extra degraded)).count (some a.path) =
          A.paths.count a.path)) ∧
    (∀ b ∈ B.endpoints,
      (reportedPaths .endpointExtra (compare o A B extra degraded)).count (some b.path) =
        if ∃ a ∈ A.endpoints, equivalent a.path b.path = true then 0 else B.paths.count b.path) ∧
    reportedPaths .endpointMissing (compare o A B extra degraded) =
      reportedPaths .endpointExtra (compare o B A extra degraded) ∧
    reportedPaths .endpointMissing (compare o A B extra degraded) =
      (A.paths.filter fun p => ∀ b ∈ B.endpoints, equivalent p b.path = false).map some := by
  rw [reportedPaths_missing on, reportedPaths_extra on, reportedPaths_extra on]
  refine ⟨fun a _ => ?_, fun b _ => ?_, rfl, ?_⟩
  · rw [pairs_filter_eq, count_unmatchedPaths]
    cases hf : B.find a.path with
    | some b => exact .inl ⟨b, find_eq_some_iff_isFirstEquivalent.1 hf, rfl, rfl⟩
    | none => exact .inr ⟨find_eq_none_iff.1 hf, rfl, rfl⟩
  · rw [count_unmatchedPaths]
    by_cases h : ∃ a ∈ A.endpoints, equivalent a.path b.path = true
    · rw [if_pos h, if_neg fun hn => find_isNone_iff.1 hn h]
    · rw [if_neg h, if_pos (find_isNone_iff.2 h)]
  · congr 1
    refine List.filter_congr fun p _ => ?_
    rw [Bool.eq_iff_iff, Option.isNone_iff_eq_none, decide_eq_true_iff, find_eq_none_iff]

/-! ## A template that two paths share -/

/-- A side that uses some paths, each on a line of its own. -/
def sideUsing (label : String) (paths : List String) : Surface :=
  .ofFeatures label ⟨paths.zipIdx.map fun (p, (i : Nat)) => ⟨p, i, "", none, none⟩, [], [], []⟩
    Surface.defaultWindow

/-- `/u/1` and `/u/2` are both paired with `/u/{id}`; `/health` is missing in one order of the sides
and extra in the other. -/
theorem compare_divides_endpoints_template :
    CheckOptions.default.includeWarnings = true ∧
    (let A := sideUsing "web" ["/u/1", "/health", "/u/2"]
     let B := sideUsing "api" ["/u/\x7bid\x7d"]
     reportedPaths .endpointMissing (compare .default A B none []) = [some "/health"] ∧
     reportedPaths .endpointExtra (compare .default B A none []) = [some "/health"] ∧
     (pairs A B).length = 2) := by
  have law := compare_divides_endpoints .default rfl (sideUsing "web" ["/u/1", "/health", "/u/2"])
    (sideUsing "api" ["/u/\x7bid\x7d"]) none []
  obtain ⟨-, -, swap, missing⟩ := law
  refine ⟨rfl, ?_, ?_, by decide⟩
  · rw [missing]
    decide
  · rw [← swap, missing]
    decide

end Comparison

end ApiAccord
