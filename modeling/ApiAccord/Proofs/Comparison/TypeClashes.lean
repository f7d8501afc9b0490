import ApiAccord.Proofs.Comparison.EndpointMatching
import ApiAccord.Proofs.Comparison.Reports
import ApiAccord.Proofs.TypeName.Agreement

/-!
# Types that clash

Between two sides that are code, a parameter is reported if the types of its first typed occurrences
on both sides cannot agree, and if the sides have equivalent endpoints at all
(`compare_reports_type_clashes`).  Since types and endpoints compare alike in both orders,
exchanging the sides does not change which parameters are reported.
-/

namespace ApiAccord

namespace Comparison

open EndpointPath (equivalent equivalent_comm)

variable {o : CheckOptions} {A B side : Surface} {es : List SurfaceEndpoint} {name type : String}
  {p : ParameterFeature} {d c : TypedParameter}

/-! ## First typed occurrences -/

/-- `p` is the first occurrence of the name on a side that has a type, and `type` is the type.  An
empty text is no type. -/
def FirstTyped (side : Surface) (name : String) (p : ParameterFeature) (type : String) : Prop :=
  side.parameters.find? (fun p => p.name == name && p.type.any (· != "")) = some p ∧
    p.type = some type

theorem FirstTyped.spec (h : FirstTyped side name p type) : p.name = name ∧ type ≠ "" := by
  have found := List.find?_some h.1
  simpa [h.2] using found

/-- The parameter of a side that an occurrence with a type shows. -/
def typedAs (side : Surface) (p : ParameterFeature) (type : String) : TypedParameter :=
  ⟨p.name, type, ⟨some side.label, p.file, some p.line⟩⟩

/-- What an occurrence shows: nothing if it has no type. -/
def shown (side : Surface) (p : ParameterFeature) : Option TypedParameter :=
  (p.type.filter (· != "")).bind fun type => some (typedAs side p type)

theorem shown_eq_some_iff : shown side p = some d ↔
    ∃ type, p.type = some type ∧ type ≠ "" ∧ d = typedAs side p type := by
  rw [shown, Option.bind_eq_some_iff]
  refine exists_congr fun type => ?_
  rw [Option.filter_eq_some_iff, bne_iff_ne, Option.some.injEq, and_assoc,
    eq_comm (a := typedAs side p type)]

theorem any_shown : (shown side p).any (fun d => d.name == name) =
    (p.name == name && p.type.any (· != "")) := by
  cases ht : p.type with
  | none => simp [shown, ht]
  | some type => by_cases h : type = "" <;> simp [shown, ht, h, Option.filter, typedAs]

theorem typedParameters_of_code (code : side.spec = none) : typedParameters side es =
    firstBy (·.name) [] (side.parameters.filterMap (shown side)) := by
  unfold typedParameters
  rw [code]
  rfl

/-- The first typed parameter with a name is that of the first typed occurrence. -/
theorem find?_typedParameters_iff (code : side.spec = none) :
    (typedParameters side es).find? (fun d => d.name == name) = some d ↔
      ∃ p type, FirstTyped side name p type ∧ d = typedAs side p type := by
  rw [typedParameters_of_code code, find?_firstBy List.not_mem_nil, List.find?_filterMap,
    Option.bind_eq_some_iff]
  simp only [any_shown, shown_eq_some_iff]
  constructor
  · rintro ⟨p, first, type, ht, -, rfl⟩
    exact ⟨p, type, ⟨first, ht⟩, rfl⟩
  · rintro ⟨p, type, ⟨first, ht⟩, rfl⟩
    exact ⟨p, first, type, ht, (FirstTyped.spec ⟨first, ht⟩).2, rfl⟩

/-- A side has one typed parameter of each name. -/
theorem nodup_typedParameters (code : side.spec = none) :
    ((typedParameters side es).map (·.name)).Nodup := by
  rw [typedParameters_of_code code]
  exact nodup_map_firstBy

theorem mem_typedParameters_iff (code : side.spec = none) : d ∈ typedParameters side es ↔
    ∃ p type, FirstTyped side d.name p type ∧ d = typedAs side p type := by
  have first : (typedParameters side es).find? (fun c => c.name == d.name) = some d ↔ _ :=
    find?_typedParameters_iff code
  rw [← first, typedParameters_of_code code, mem_firstBy_iff, find?_firstBy List.not_mem_nil]
  exact and_iff_right List.not_mem_nil

/-! ## Clashes -/

/-- The types of the first typed occurrences of the name on both sides cannot agree. -/
def TypesClash (A B : Surface) (name : String) : Prop :=
  ∃ p type q type', FirstTyped A name p type ∧ FirstTyped B name q type' ∧
    TypeName.compatible type type' = false

theorem TypesClash.symm (h : TypesClash A B name) : TypesClash B A name := by
  obtain ⟨p, type, q, type', hp, hq, clash⟩ := h
  exact ⟨q, type', p, type, hq, hp, TypeName.compatible_comm type type' ▸ clash⟩

/-- The issue is about the parameter, at its first typed occurrence on the source. -/
def TypeClashIssue (A B : Surface) (name : String) (i : Issue) : Prop :=
  ∃ p type q type', FirstTyped A name p type ∧ FirstTyped B name q type' ∧
    i.location = some ⟨some A.label, p.file, some p.line⟩ ∧
    i.message = "Parameter '" ++ name ++ "' is " ++ type ++ " in " ++ A.label ++ " but " ++ type' ++
      " in " ++ B.label

/-- The typed parameter of the other side whose type clashes, if there is one. -/
def clashing (others : List TypedParameter) (d : TypedParameter) :
    Option (TypedParameter × TypedParameter) :=
  (others.find? fun c => c.name == d.name).bind fun c =>
    if TypeName.compatible d.type c.type then none else some (d, c)

theorem clashing_eq_some_iff {others : List TypedParameter} {x : TypedParameter × TypedParameter} :
    clashing others d = some x ↔ x.1 = d ∧
      others.find? (fun c => c.name == d.name) = some x.2 ∧
      TypeName.compatible x.1.type x.2.type = false := by
  unfold clashing
  rw [Option.bind_eq_some_iff]
  constructor
  · rintro ⟨c, found, h⟩
    split at h
    · cases h
    · next clash =>
      obtain rfl := Option.some.inj h
      exact ⟨rfl, found, Bool.eq_false_iff.2 clash⟩
  · rintro ⟨rfl, found, clash⟩
    exact ⟨x.2, found, by rw [if_neg (Bool.eq_false_iff.1 clash)]⟩

theorem typeMismatches_of_pairs (hp : pairs A B ≠ []) : typeMismatches A B =
    (typedParameters A ((pairs A B).map (·.1))).filterMap
      (clashing (typedParameters B ((pairs A B).map (·.2)))) := by
  have some : ¬ (pairs A B).isEmpty = true := mt List.isEmpty_iff.1 hp
  unfold typeMismatches
  dsimp only
  rw [if_neg some]
  rfl

/-- Of the typed parameters of the source some stay, in order. -/
theorem map_fst_filterMap_clashing_sublist (others ds : List TypedParameter) :
    ((ds.filterMap (clashing others)).map (·.1)).Sublist ds := by
  induction ds with
  | nil => exact .slnil
  | cons d rest ih =>
    rw [List.filterMap_cons]
    split
    · exact ih.cons d
    · next x hx =>
      rw [List.map_cons, (clashing_eq_some_iff.1 hx).1]
      exact ih.cons_cons d

theorem nodup_typeMismatches (hA : A.spec = none) (hp : pairs A B ≠ []) :
    ((typeMismatches A B).map (·.1.name)).Nodup := by
  rw [typeMismatches_of_pairs hp]
  have names := (map_fst_filterMap_clashing_sublist
    (typedParameters B ((pairs A B).map (·.2))) (typedParameters A ((pairs A B).map (·.1)))).map
      (·.name)
  rw [List.map_map] at names
  exact (nodup_typedParameters hA).sublist names

theorem mem_typeMismatches_iff (hA : A.spec = none) (hB : B.spec = none) (hp : pairs A B ≠ [])
    {x : TypedParameter × TypedParameter} : x ∈ typeMismatches A B ↔
      ∃ p type q type', FirstTyped A x.1.name p type ∧ FirstTyped B x.1.name q type' ∧
        TypeName.compatible type type' = false ∧ x = (typedAs A p type, typedAs B q type') := by
  rw [typeMismatches_of_pairs hp, List.mem_filterMap]
  simp only [clashing_eq_some_iff]
  constructor
  · rintro ⟨d, hd, rfl, found, clash⟩
    obtain ⟨p, type, first, hx⟩ := (mem_typedParameters_iff hA).1 hd
    obtain ⟨q, type', first', hx'⟩ := (find?_typedParameters_iff hB).1 found
    rw [hx, hx'] at clash
    exact ⟨p, type, q, type', first, first', clash, Prod.ext hx hx'⟩
  · rintro ⟨p, type, q, type', first, first', clash, hx⟩
    refine ⟨x.1, (mem_typedParameters_iff hA).2 ⟨p, type, first, by rw [hx]⟩, rfl,
      (find?_typedParameters_iff hB).2 ⟨q, type', first', by rw [hx]⟩, ?_⟩
    rw [hx]
    exact clash

theorem oneForEach_typeClash (hA : A.spec = none) (hB : B.spec = none) (hp : pairs A B ≠ []) :
    OneForEach (TypesClash A B) (TypeClashIssue A B) (typeMismatchIssues o A B) := by
  refine oneForEach_map (·.1.name) (nodup_typeMismatches hA hp) (fun name => ?_) fun x hx => ?_
  · rw [List.mem_map]
    constructor
    · rintro ⟨x, hx, rfl⟩
      obtain ⟨p, type, q, type', first, first', clash, -⟩ := (mem_typeMismatches_iff hA hB hp).1 hx
      exact ⟨p, type, q, type', first, first', clash⟩
    · rintro ⟨p, type, q, type', first, first', clash⟩
      obtain rfl := first.spec.1
      exact ⟨(typedAs A p type, typedAs B q type'),
        (mem_typeMismatches_iff hA hB hp).2 ⟨p, type, q, type', first, first', clash, rfl⟩, rfl⟩
  · obtain ⟨p, type, q, type', first, first', -, rfl⟩ := (mem_typeMismatches_iff hA hB hp).1 hx
    exact ⟨p, type, q, type', first, first', rfl, rfl⟩

/-! ## The law -/

theorem pairs_eq_nil_iff : pairs A B = [] ↔
    ∀ a ∈ A.endpoints, ∀ b ∈ B.endpoints, equivalent a.path b.path = false := by
  rw [pairs, List.filterMap_eq_nil_iff]
  refine forall₂_congr fun a _ => ?_
  rw [Option.map_eq_none_iff, find_eq_none_iff]

theorem typeMismatchIssues_eq_nil (none : pairs A B = []) : typeMismatchIssues o A B = [] := by
  unfold typeMismatchIssues typeMismatches
  rw [none]
  rfl

/-- Where no endpoint of one side is equivalent to one of the other, no types are compared.
Otherwise the parameters are reported whose first typed occurrences on the two sides have types that
cannot agree, each once, at the first typed occurrence on the source; and so are the same parameters
if the sides are exchanged. -/
theorem compare_reports_type_clashes (o : CheckOptions) (on : o.includeWarnings = true)
    (A B : Surface) (hA : A.spec = none) (hB : B.spec = none) (extra : Option Spec)
    (degraded : List String) :
    let reports := ofKind .parameterTypeMismatch (compare o A B extra degraded).issues
    let exchanged := ofKind .parameterTypeMismatch (compare o B A extra degraded).issues
    ((∀ a ∈ A.endpoints, ∀ b ∈ B.endpoints, equivalent a.path b.path = false) →
      reports = [] ∧ exchanged = []) ∧
    ((∃ a ∈ A.endpoints, ∃ b ∈ B.endpoints, equivalent a.path b.path = true) →
      OneForEach (TypesClash A B) (TypeClashIssue A B) reports ∧
      OneForEach (TypesClash A B) (TypeClashIssue B A) exchanged) := by
  intro reports exchanged
  have hr : reports = typeMismatchIssues o A B := ofKind_issues_of_shown on
  have he : exchanged = typeMismatchIssues o B A := ofKind_issues_of_shown on
  -- The pairs differ in the two orders, but there are some in one if there are some in the other.
  have swap : pairs A B = [] ↔ pairs B A = [] := by
    rw [pairs_eq_nil_iff, pairs_eq_nil_iff]
    constructor
    · intro h b hb a ha
      rw [equivalent_comm]
      exact h a ha b hb
    · intro h a ha b hb
      rw [equivalent_comm]
      exact h b hb a ha
  rw [hr, he]
  constructor
  · intro apart
    have none := pairs_eq_nil_iff.2 apart
    exact ⟨typeMismatchIssues_eq_nil none, typeMismatchIssues_eq_nil (swap.1 none)⟩
  · rintro ⟨a, ha, b, hb, equiv⟩
    have some : pairs A B ≠ [] := by
      intro none
      have := pairs_eq_nil_iff.1 none a ha b hb
      rw [equiv] at this
      cases this
    refine ⟨oneForEach_typeClash hA hB some, ?_⟩
    have same : TypesClash A B = TypesClash B A :=
      funext fun name => propext ⟨TypesClash.symm, TypesClash.symm⟩
    rw [same]
    exact oneForEach_typeClash hB hA (mt swap.2 some)

/-! ## One parameter with two types -/

/-- Code with one endpoint and some parameters. -/
def typingSide (label path : String) (parameters : List ParameterFeature) : Surface :=
  .ofFeatures label ⟨[⟨path, 1, "", none, none⟩], [], [], parameters⟩ Surface.defaultWindow

/-- The first two mentions of `age` show no type, the last one comes too late, and `page` may be a
number on both sides; where the endpoints have nothing in common, `age` is not compared either. -/
theorem compare_reports_type_clashes_users :
    let A := typingSide "web" "/u/1"
      [⟨"age", none, 2, none⟩, ⟨"age", some "", 3, none⟩, ⟨"age", some "str", 4, none⟩,
        ⟨"age", some "int", 5, none⟩, ⟨"page", some "Optional[int]", 6, none⟩]
    let B := typingSide "api" "/u/\x7bid\x7d"
      [⟨"page", some "number", 7, none⟩, ⟨"age", some "long", 8, none⟩]
    let C := typingSide "old" "/users" [⟨"age", some "long", 9, none⟩]
    let clashes (source target : Surface) :=
      ofKind .parameterTypeMismatch (compare .default source target none []).issues
    (CheckOptions.default.includeWarnings = true ∧ A.spec = none ∧ B.spec = none ∧ C.spec = none ∧
      (∃ a ∈ A.endpoints, ∃ b ∈ B.endpoints, equivalent a.path b.path = true) ∧
      ∀ a ∈ A.endpoints, ∀ c ∈ C.endpoints, equivalent a.path c.path = false) ∧
    (OneForEach (TypesClash A B) (TypeClashIssue A B) (clashes A B) ∧
      OneForEach (TypesClash A B) (TypeClashIssue B A) (clashes B A)) ∧
    (clashes A C = [] ∧ clashes C A = []) ∧
    (clashes A B).map (fun i => (i.message, i.location.bind (·.line))) =
      [("Parameter 'age' is str in web but long in api", some 4)] ∧
    (clashes B A).map (fun i => (i.message, i.location.bind (·.line))) =
      [("Parameter 'age' is long in api but str in web", some 8)] := by
  intro A B C clashes
  have shared : ∃ a ∈ A.endpoints, ∃ b ∈ B.endpoints, equivalent a.path b.path = true := by
    decide +kernel
  have apart : ∀ a ∈ A.endpoints, ∀ c ∈ C.endpoints, equivalent a.path c.path = false := by
    decide +kernel
  exact ⟨⟨rfl, rfl, rfl, rfl, shared, apart⟩,
    (compare_reports_type_clashes .default rfl A B rfl rfl none []).2 shared,
    (compare_reports_type_clashes .default rfl A C rfl rfl none []).1 apart,
    by decide +kernel, by decide +kernel⟩

end Comparison

end ApiAccord
