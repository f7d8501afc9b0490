import ApiAccord.Comparison

/-!
# The kinds of issues

Each step of a comparison finds issues of a kind of its own, with the severity that the options give
to the kind (`ranked_of_mem_found`).  So the issues of one kind among all are those of the steps for
that kind, in order (`ofKind_allIssues`): what is said about one step need not look at the others.
-/

namespace ApiAccord

namespace Comparison

variable {o : CheckOptions} {source target : Surface} {extra : Option Spec}
  {degraded : List String} {i : Issue} {l : List Issue} {k k' : IssueKind}

/-- The issues of one kind, in order. -/
def ofKind (k : IssueKind) (issues : List Issue) : List Issue := issues.filter (·.kind == k)

theorem mem_ofKind_iff : i ∈ ofKind k l ↔ i ∈ l ∧ i.kind = k := by
  simp [ofKind]

theorem ofKind_append (l l' : List Issue) : ofKind k (l ++ l') = ofKind k l ++ ofKind k l' :=
  List.filter_append ..

/-- Of issues that are all of one kind, either all are of a kind or none is. -/
theorem ofKind_uniform (h : ∀ i ∈ l, i.kind = k') : ofKind k l = if k' = k then l else [] := by
  unfold ofKind
  split
  · next hk => exact List.filter_eq_self.2 fun i hi => by simp [h i hi, hk]
  · next hk => exact List.filter_eq_nil_iff.2 fun i hi => by simp [h i hi, hk]

/-! ## The kind and the severity of what a step finds -/

/-- The issue is of the kind, with the severity that the options give to it; only a custom rule may
want another one. -/
def Ranked (o : CheckOptions) (k : IssueKind) (i : Issue) : Prop :=
  i.kind = k ∧ (k ≠ .custom → i.severity = o.severityOf k none)

/-- Most steps make their issues one by one. -/
theorem ranked_of_mem_map {α : Type} {f : α → Issue} {xs : List α} (hf : ∀ x, Ranked o k (f x))
    (h : i ∈ xs.map f) : Ranked o k i := by
  obtain ⟨x, -, rfl⟩ := List.mem_map.1 h
  exact hf x

theorem ranked_of_mem_methodIssues (h : i ∈ methodIssues o source target) :
    Ranked o .methodMismatch i := by
  obtain ⟨p, -, h⟩ := List.mem_flatMap.1 h
  unfold pairIssues at h
  split at h
  · cases h
  · rcases List.mem_append.1 h with h | h <;>
      exact ranked_of_mem_map (fun _ => ⟨rfl, fun _ => rfl⟩) h

/-- A custom rule has issues of its own kind only. -/
theorem kind_eq_custom_of_customRule? {name : String} {rule : RuleContext → List Issue}
    (hr : customRule? name = some rule) {ctx : RuleContext} (h : i ∈ rule ctx) :
    i.kind = .custom := by
  have made : ∀ {α : Type} {f : α → Issue} {xs : List α}, (∀ x, (f x).kind = .custom) →
      i ∈ xs.map f → i.kind = .custom := by
    intro α f xs hf hi
    obtain ⟨x, -, rfl⟩ := List.mem_map.1 hi
    exact hf x
  unfold customRule? at hr
  split at hr
  · obtain rfl := Option.some.inj hr
    obtain ⟨x, -, h⟩ := List.mem_filterMap.1 h
    dsimp only at h
    split at h
    · cases h
    · exact Option.some.inj h ▸ rfl
  · obtain rfl := Option.some.inj hr
    rcases List.mem_append.1 h with h | h
    · obtain ⟨x, -, h⟩ := List.mem_flatMap.1 h
      exact made (fun _ => rfl) h
    · obtain ⟨x, -, h⟩ := List.mem_flatMap.1 h
      exact made (fun _ => rfl) h
  · obtain rfl := Option.some.inj hr
    obtain ⟨x, -, h⟩ := List.mem_flatMap.1 h
    exact made (fun _ => rfl) h
  · obtain rfl := Option.some.inj hr
    obtain ⟨x, -, h⟩ := List.mem_flatMap.1 h
    obtain ⟨y, -, h⟩ := List.mem_flatMap.1 h
    exact made (fun _ => rfl) h
  · cases hr

theorem kind_eq_of_mem_customIssues (h : i ∈ customIssues o source target extra) :
    i.kind = .custom := by
  obtain ⟨name, -, h⟩ := List.mem_flatMap.1 h
  split at h
  · next rule hr => exact kind_eq_custom_of_customRule? hr h
  · cases h

/-! ## The issues of each kind -/

/-- The issue about a source endpoint that the target does not serve. -/
def missingIssue (o : CheckOptions) (source target : Surface) (e : SurfaceEndpoint) : Issue :=
  issue o .endpointMissing "endpoint-consistency"
    s!"Endpoint {e.path} is used by {source.label} but not found in {target.label}"
    (some (e.location.getD (.ofSide source.label))) (some e.path) none
    (suggestions o e.path target.paths)

/-- The issue about a target endpoint that the source does not use. -/
def extraIssue (o : CheckOptions) (source target : Surface) (e : SurfaceEndpoint) : Issue :=
  issue o .endpointExtra "endpoint-consistency"
    s!"Endpoint {e.path} is provided by {target.label} but not used by {source.label}"
    (some (e.location.getD (.ofSide target.label))) (some e.path) none []

/-- What the steps for one kind find. -/
def found (o : CheckOptions) (source target : Surface) (extra : Option Spec) :
    IssueKind → List Issue
  | .endpointMissing => (missingEndpoints source target).map (missingIssue o source target)
  | .endpointExtra => (extraEndpoints source target).map (extraIssue o source target)
  | .methodMismatch => methodIssues o source target
  | .invalidMethod => invalidMethodIssues o source ++ invalidMethodIssues o target
  | .schemaMissing =>
    match effectiveSpec source target extra with
    | some spec => schemaIssues o source spec ++ schemaIssues o target spec
    | none => []
  | .parameterMissingType => untypedIssues o source ++ untypedIssues o target
  | .parameterMissing => unsentIssues o source target
  | .parameterTypeMismatch => typeMismatchIssues o source target
  | .parameterExtra => if o.ignoreMinor then [] else extraParameterIssues o source target
  | .specStructure => []
  | .custom => customIssues o source target extra

/-- The steps for one kind find issues of that kind, ranked by the options. -/
theorem ranked_of_mem_found (h : i ∈ found o source target extra k) : Ranked o k i := by
  cases k with
  | endpointMissing | endpointExtra | parameterMissing | parameterTypeMismatch =>
    exact ranked_of_mem_map (fun _ => ⟨rfl, fun _ => rfl⟩) h
  | methodMismatch => exact ranked_of_mem_methodIssues h
  | invalidMethod | parameterMissingType =>
    rcases List.mem_append.1 h with h | h <;>
      exact ranked_of_mem_map (fun _ => ⟨rfl, fun _ => rfl⟩) h
  | schemaMissing =>
    dsimp only [found] at h
    split at h
    · rcases List.mem_append.1 h with h | h <;>
        exact ranked_of_mem_map (fun _ => ⟨rfl, fun _ => rfl⟩) h
    · cases h
  | parameterExtra =>
    dsimp only [found] at h
    split at h
    · cases h
    · exact ranked_of_mem_map (fun _ => ⟨rfl, fun _ => rfl⟩) h
  | specStructure => cases h
  | custom => exact ⟨kind_eq_of_mem_customIssues h, fun hk => absurd rfl hk⟩

theorem allIssues_eq : allIssues o source target extra =
    found o source target extra .endpointMissing ++ found o source target extra .endpointExtra ++
      found o source target extra .methodMismatch ++ found o source target extra .invalidMethod ++
      found o source target extra .schemaMissing ++
      found o source target extra .parameterMissingType ++
      found o source target extra .parameterMissing ++
      found o source target extra .parameterTypeMismatch ++
      found o source target extra .parameterExtra ++ found o source target extra .custom := by
  simp only [allIssues, coreIssues, endpointIssues, found, List.append_assoc]
  rfl

/-- The issues of one kind are those that the steps for it find. -/
theorem ofKind_allIssues (k : IssueKind) :
    ofKind k (allIssues o source target extra) = found o source target extra k := by
  have step : ∀ k', ofKind k (found o source target extra k') =
      if k' = k then found o source target extra k' else [] :=
    fun k' => ofKind_uniform fun _ hi => (ranked_of_mem_found hi).1
  rw [allIssues_eq]
  simp only [ofKind_append, step]
  cases k <;> simp [found]

theorem mem_allIssues_iff :
    i ∈ allIssues o source target extra ↔ i ∈ found o source target extra i.kind := by
  rw [← ofKind_allIssues, mem_ofKind_iff]
  exact (and_iff_left rfl).symm

/-- A comparison that returns warnings returns all issues. -/
theorem issues_compare (on : o.includeWarnings = true) :
    (compare o source target extra degraded).issues = allIssues o source target extra := by
  simp [compare, CheckOptions.returned, on]

end Comparison

end ApiAccord
