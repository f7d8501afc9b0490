import ApiAccord.Proofs.Comparison.EndpointMatching
import ApiAccord.Proofs.Comparison.MethodSymmetry
import Mathlib.Data.List.Nodup
import Mathlib.Data.List.Pairwise

/-!
# When code agrees with itself

Compared with itself, code has no missing and no extra endpoints, since every path is equivalent to
itself.  But an endpoint is paired with the first one that is equivalent to it, which need not be
the endpoint itself: code agrees with itself exactly if every endpoint shows the methods of its
first equivalent, and whatever the methods are exactly if no two of its paths are equivalent
(`agreesWithItself_iff`).
-/

namespace ApiAccord

namespace Comparison

open EndpointPath (equivalent equivalent_comm equivalent_self)

variable {A B : Surface} {i : Issue} {a b e : SurfaceEndpoint} {label : String} {F : FeatureSet}
  {window : Int} {paths : List String} {p q : String}

/-- A comparison with itself finds no endpoint and no method at fault. -/
def AgreesWithItself (A : Surface) : Prop :=
  (compare .default A A none []).compatible = true ∧
    ∀ i ∈ (compare .default A A none []).issues,
      i.kind ∉ [.endpointMissing, .endpointExtra, .methodMismatch, .invalidMethod]

/-- All words used as methods are regular ones. -/
def AllRegular (A : Surface) : Prop :=
  ∀ e ∈ A.endpoints, ∀ m ∈ e.methods, HttpMethod.isRegular m = true

/-- The endpoints show the same methods, or one of them shows none. -/
def MethodsAgree (a b : SurfaceEndpoint) : Prop :=
  a.regularMethods = [] ∨ b.regularMethods = [] ∨ ∀ m, m ∈ a.regularMethods ↔ m ∈ b.regularMethods

/-! ## What can be at fault -/

theorem missingEndpoints_self : missingEndpoints A A = [] := by
  refine List.filter_eq_nil_iff.2 fun a ha hn => ?_
  exact find_isNone_iff.1 hn ⟨a, ha, equivalent_self⟩

theorem extraEndpoints_self : extraEndpoints A A = [] := by
  rw [extraEndpoints_eq, missingEndpoints_self]

theorem invalidMethodIssues_eq_nil {o : CheckOptions} (h : AllRegular A) :
    invalidMethodIssues o A = [] := by
  have none : (A.endpoints.flatMap fun e =>
      (e.methods.filter fun m => !HttpMethod.isRegular m).map fun m => (e, m)) = [] := by
    refine List.flatMap_eq_nil_iff.2 fun e he => ?_
    rw [List.map_eq_nil_iff, List.filter_eq_nil_iff]
    intro m hm
    simp [h e he m hm]
  rw [invalidMethodIssues, invalidMethods, none]
  rfl

theorem pairIssues_eq_nil_iff {o : CheckOptions} :
    pairIssues o A B (a, b) = [] ↔ MethodsAgree a b := by
  unfold pairIssues MethodsAgree
  by_cases ha : a.regularMethods = []
  · simp [ha]
  · by_cases hb : b.regularMethods = []
    · simp [hb]
    · simp only [List.isEmpty_iff, ha, hb, Bool.or_eq_true, or_self, if_false, false_or,
        List.append_eq_nil_iff, List.map_eq_nil_iff, methodsWithout, List.filter_eq_nil_iff]
      simp only [Bool.not_eq_true', Bool.not_eq_false, List.contains_iff_mem]
      exact ⟨fun h m => ⟨h.1 m, h.2 m⟩, fun h => ⟨fun m => (h m).1, fun m => (h m).2⟩⟩

theorem methodIssues_eq_nil_iff {o : CheckOptions} : methodIssues o A B = [] ↔
    ∀ a ∈ A.endpoints, ∀ b, IsFirstEquivalent B.endpoints a.path b → MethodsAgree a b := by
  rw [methodIssues, List.flatMap_eq_nil_iff]
  constructor
  · intro h a ha b hb
    exact pairIssues_eq_nil_iff.1
      (h (a, b) (mem_pairs_iff.2 ⟨ha, find_eq_some_iff_isFirstEquivalent.2 hb⟩))
  · rintro h ⟨a, b⟩ hp
    obtain ⟨ha, hb⟩ := mem_pairs_iff.1 hp
    exact pairIssues_eq_nil_iff.2 (h a ha b (find_eq_some_iff_isFirstEquivalent.1 hb))

/-- Beside faults of endpoints and methods, only those of a document by itself are errors. -/
theorem defaultSeverity_eq_error_iff {k : IssueKind} : k.defaultSeverity = .error ↔
    k ∈ [.endpointMissing, .endpointExtra, .methodMismatch, .invalidMethod] ∧
      k ≠ .endpointExtra ∨ k = .specStructure := by
  cases k <;> simp [IssueKind.defaultSeverity]

/-- By default the issues rank as their kinds do. -/
theorem severity_of_mem_allIssues_default (h : i ∈ allIssues .default A B none) :
    i.severity = i.kind.defaultSeverity := by
  have hf := mem_allIssues_iff.1 h
  refine (ranked_of_mem_found hf).2 fun hk => ?_
  -- No custom rule runs by default.
  rw [hk] at hf
  cases hf

theorem kind_ne_of_mem_allIssues_self (h : i ∈ allIssues .default A A none) :
    i.kind ≠ .endpointMissing ∧ i.kind ≠ .endpointExtra := by
  have hf := mem_allIssues_iff.1 h
  constructor
  · intro hk
    rw [hk, found, missingEndpoints_self] at hf
    cases hf
  · intro hk
    rw [hk, found, extraEndpoints_self] at hf
    cases hf

/-- Where all methods are regular, only methods that one endpoint of a pair lacks are at fault. -/
theorem agreesWithItself_iff_methodIssues (h : AllRegular A) :
    AgreesWithItself A ↔ methodIssues .default A A = [] := by
  have issues : (compare .default A A none []).issues = allIssues .default A A none :=
    issues_compare rfl
  constructor
  · rintro ⟨-, hk⟩
    refine List.eq_nil_iff_forall_not_mem.2 fun i hi => ?_
    obtain ⟨hi, hm⟩ := mem_allIssues_methodMismatch_iff.2 hi
    exact hk i (issues ▸ hi) (by simp [hm])
  · intro hm
    have sound : ∀ i ∈ allIssues .default A A none,
        i.kind ∉ [.endpointMissing, .endpointExtra, .methodMismatch, .invalidMethod] := by
      intro i hi
      have hf := mem_allIssues_iff.1 hi
      obtain ⟨h₁, h₂⟩ := kind_ne_of_mem_allIssues_self hi
      have h₃ : i.kind ≠ .methodMismatch := by
        intro hk
        rw [hk, found, hm] at hf
        cases hf
      have h₄ : i.kind ≠ .invalidMethod := by
        intro hk
        rw [hk, found, invalidMethodIssues_eq_nil h] at hf
        cases hf
      simp [h₁, h₂, h₃, h₄]
    refine ⟨?_, issues ▸ sound⟩
    show (!(allIssues .default A A none).any fun i => i.severity == .error) = true
    rw [Bool.not_eq_true', List.any_eq_false]
    intro i hi he
    rw [severity_of_mem_allIssues_default hi, beq_iff_eq] at he
    rcases defaultSeverity_eq_error_iff.1 he with hk | hk
    · exact sound i hi hk.1
    · have hf := mem_allIssues_iff.1 hi
      rw [hk] at hf
      cases hf

/-! ## Paths that are their own first equivalents -/

/-- Among paths of which no two are equivalent, a path is equivalent to itself only. -/
theorem eq_of_pairwise (hd : (paths.Pairwise fun p q => equivalent p q = false)) (hp : p ∈ paths)
    (hq : q ∈ paths) (he : equivalent p q = true) : p = q := by
  by_contra hne
  have symm : Std.Symm fun p q => equivalent p q = false := by
    refine ⟨fun p q h => ?_⟩
    rw [equivalent_comm]
    exact h
  have apart := hd.forall hp hq hne
  rw [he] at apart
  cases apart

/-- If every path is its own first equivalent, no two paths are equivalent. -/
theorem pairwise_of_firstEquivalent_self (hd : paths.Nodup)
    (h : ∀ q ∈ paths, firstEquivalent paths q = some q) :
    paths.Pairwise fun p q => equivalent p q = false := by
  refine List.pairwise_iff_getElem.2 fun i j hi hj hij => ?_
  obtain ⟨-, k, hk, hq, before⟩ :=
    List.find?_eq_some_iff_getElem.1 (h paths[j] (List.getElem_mem hj))
  obtain rfl := (hd.getElem_inj_iff).1 hq
  simpa using before i hij

/-! ## The law -/

theorem methodsAgree_of_mem_self (hd : A.paths.Nodup)
    (h : A.paths.Pairwise fun p q => equivalent p q = false) (ha : a ∈ A.endpoints)
    (hb : IsFirstEquivalent A.endpoints a.path b) : MethodsAgree a b := by
  obtain ⟨before, after, hs, he, -⟩ := hb
  have hb : b ∈ A.endpoints := by simp [hs]
  have same : a.path = b.path :=
    eq_of_pairwise h (List.mem_map_of_mem ha) (List.mem_map_of_mem hb) he
  obtain rfl := eq_of_path_eq hd ha hb same
  exact .inr (.inr fun _ => Iff.rfl)

theorem allRegular_probe {f : String → String} {n : Nat}
    (hf : ∀ p, HttpMethod.isRegular (f p) = true) :
    AllRegular (Surface.ofFeatures label (probe F f) n) := by
  intro e he m hm
  rw [(mem_methods_probe he).1 hm]
  exact hf _

/-- If code with a method of its own for the path `q` agrees with itself, `q` is its own first
equivalent. -/
theorem firstEquivalent_self_of_agrees {n : Nat}
    (hq : q ∈ (Surface.ofFeatures label F n).paths)
    (h : AgreesWithItself (Surface.ofFeatures label (probe F (postAt q)) n)) :
    firstEquivalent (Surface.ofFeatures label F n).paths q = some q := by
  have regular : AllRegular (Surface.ofFeatures label (probe F (postAt q)) n) :=
    allRegular_probe fun _ => isRegular_postAt
  have none := methodIssues_eq_nil_iff.1 ((agreesWithItself_iff_methodIssues regular).1 h)
  rw [← paths_probe (f := postAt q)] at hq ⊢
  obtain ⟨a, ha, rfl⟩ := exists_endpoint_of_mem_paths hq
  obtain ⟨b, hb⟩ : ∃ b, (Surface.ofFeatures label (probe F (postAt a.path)) n).find a.path =
      some b := by
    cases hf : (Surface.ofFeatures label (probe F (postAt a.path)) n).find a.path with
    | some b => exact ⟨b, rfl⟩
    | none =>
      have := find_eq_none_iff.1 hf a ha
      rw [equivalent_self] at this
      cases this
  have hb' := List.mem_of_find?_eq_some hb
  have post : "POST" ∈ a.regularMethods :=
    (mem_regularMethods_probe (fun _ => isRegular_postAt) ha).2 (if_pos rfl).symm
  have own : postAt a.path b.path ∈ b.regularMethods :=
    (mem_regularMethods_probe (fun _ => isRegular_postAt) hb').2 rfl
  have same : "POST" ∈ b.regularMethods := by
    rcases none a ha b (find_eq_some_iff_isFirstEquivalent.1 hb) with h | h | h
    · rw [h] at post
      cases post
    · rw [h] at own
      cases own
    · exact (h _).1 post
  -- Only the path itself has the method `POST`.
  have path_eq : b.path = a.path := by
    have hm := (mem_regularMethods_probe (fun _ => isRegular_postAt) hb').1 same
    by_contra hne
    rw [postAt, if_neg hne] at hm
    exact absurd hm (by decide)
  rw [← find_path, hb, ← path_eq]
  rfl

/-- Compared with itself, code never has missing or extra endpoints.  If all its methods are
regular, it agrees with itself exactly if every endpoint shows the methods of the first one
equivalent to it, or one of both shows none.  Code with given paths agrees with itself whatever
regular methods it shows exactly if no two of the paths are equivalent.  A negative window lets no
method in. -/
theorem agreesWithItself_iff (label : String) (F : FeatureSet) (window : Int) :
    (∀ i ∈ (compare .default (Surface.ofFeatures label F window)
        (Surface.ofFeatures label F window) none []).issues,
      i.kind ≠ .endpointMissing ∧ i.kind ≠ .endpointExtra) ∧
    (AllRegular (Surface.ofFeatures label F window) →
      (AgreesWithItself (Surface.ofFeatures label F window) ↔
        ∀ a ∈ (Surface.ofFeatures label F window).endpoints, ∀ b,
          IsFirstEquivalent (Surface.ofFeatures label F window).endpoints a.path b →
            MethodsAgree a b)) ∧
    ((∀ G, (Surface.ofFeatures label G window).paths = (Surface.ofFeatures label F window).paths →
        AllRegular (Surface.ofFeatures label G window) →
          AgreesWithItself (Surface.ofFeatures label G window)) ↔
      window < 0 ∨ (Surface.ofFeatures label F window).paths.Pairwise
        fun p q => equivalent p q = false) := by
  refine ⟨fun i hi => ?_, fun regular => ?_, fun h => ?_, ?_⟩
  · rw [issues_compare rfl] at hi
    exact kind_ne_of_mem_allIssues_self hi
  · exact (agreesWithItself_iff_methodIssues regular).trans methodIssues_eq_nil_iff
  · by_cases hw : window < 0
    · exact .inl hw
    · obtain ⟨n, rfl⟩ := Int.eq_ofNat_of_zero_le (Int.not_lt.1 hw)
      refine .inr (pairwise_of_firstEquivalent_self Surface.nodup_paths_ofFeatures fun q hq => ?_)
      exact firstEquivalent_self_of_agrees hq
        (h _ paths_probe (allRegular_probe fun _ => isRegular_postAt))
  · intro h G hG regular
    refine (agreesWithItself_iff_methodIssues regular).2
      (methodIssues_eq_nil_iff.2 fun a ha b hb => ?_)
    rcases h with hw | hp
    · refine .inl (List.eq_nil_iff_forall_not_mem.2 fun m hm => ?_)
      exact not_mem_methods_of_neg hw ha (List.mem_filter.1 hm).1
    · rw [← hG] at hp
      exact methodsAgree_of_mem_self Surface.nodup_paths_ofFeatures hp ha hb

/-! ## A template before a path that it covers -/

/-- Code that reads `/u/{id}` and posts to `/u/1`. -/
def overlappingFeatures : FeatureSet where
  endpoints := [⟨"/u/\x7bid\x7d", 1, "", none, none⟩, ⟨"/u/1", 2, "", none, none⟩]
  methods := [⟨"GET", 1, "", none, none⟩, ⟨"POST", 2, "", none, none⟩]
  schemas := []
  parameters := []

def overlappingSide : Surface := .ofFeatures "web" overlappingFeatures Surface.defaultWindow

/-- `POST /u/1` is held against `/u/{id}`, which comes first, and not against itself. -/
theorem not_agreesWithItself_of_template :
    AllRegular overlappingSide ∧ ¬ AgreesWithItself overlappingSide := by
  have regular : AllRegular overlappingSide := by
    unfold AllRegular
    decide
  refine ⟨regular, fun h => ?_⟩
  have none := (agreesWithItself_iff_methodIssues regular).1 h
  exact absurd (congrArg List.length none) (by decide)

end Comparison

end ApiAccord
