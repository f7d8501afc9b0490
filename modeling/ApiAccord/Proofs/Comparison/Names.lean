import ApiAccord.Proofs.Comparison.Reports
import ApiAccord.Proofs.Surface

/-!
# What is reported by name

Words that are no methods, type names that the specification does not know, and parameters that the
target does not declare are each reported once, where they first occur
(`compare_reports_names_once`): words and type names once for each side, type names only of code.
-/

namespace ApiAccord

namespace Comparison

variable {o : CheckOptions} {A B side : Surface} {spec : Spec} {e : SurfaceEndpoint}
  {m name : String}

/-! ## Words that are no methods -/

/-- Some endpoint of the side carries the word, which is no method. -/
def CarriesStray (side : Surface) (m : String) : Prop :=
  HttpMethod.isRegular m = false ∧ ∃ e ∈ side.endpoints, m ∈ e.methods

/-- The issue is about the word, at the first endpoint of the side that carries it. -/
def StrayIssue (side : Surface) (m : String) (i : Issue) : Prop :=
  i.method = some m ∧ ∃ e, side.endpoints.find? (fun e => e.methods.contains m) = some e ∧
    i.path = some e.path ∧ i.location = some (methodLocation side e m) ∧
    i.message = "'" ++ m ++ "' used with " ++ e.path ++ " in " ++ side.label ++
      " is not a valid HTTP method"

/-- The words of an endpoint that are no methods, each with the endpoint. -/
def strays (e : SurfaceEndpoint) : List (SurfaceEndpoint × String) :=
  (e.methods.filter fun m => !HttpMethod.isRegular m).map fun m => (e, m)

theorem mem_strays_iff {x : SurfaceEndpoint × String} :
    x ∈ strays e ↔ x.1 = e ∧ HttpMethod.isRegular x.2 = false ∧ x.2 ∈ e.methods := by
  simp only [strays, List.mem_map, List.mem_filter, Bool.not_eq_true', Prod.ext_iff]
  constructor
  · rintro ⟨m, ⟨hm, stray⟩, he, rfl⟩
    exact ⟨he.symm, stray, hm⟩
  · rintro ⟨rfl, stray, hm⟩
    exact ⟨x.2, ⟨hm, stray⟩, rfl, rfl⟩

theorem find?_strays (stray : HttpMethod.isRegular m = false) :
    (strays e).find? (fun x => x.2 == m) = if e.methods.contains m then some (e, m) else none := by
  split
  · next carried =>
    have some : ((strays e).find? fun x => x.2 == m).isSome = true :=
      List.find?_isSome.2
        ⟨(e, m), mem_strays_iff.2 ⟨rfl, stray, List.contains_iff_mem.1 carried⟩, by simp⟩
    obtain ⟨x, hx⟩ := Option.isSome_iff_exists.1 some
    have word : x.2 = m := by simpa using List.find?_some hx
    rw [hx, ← (mem_strays_iff.1 (List.mem_of_find?_eq_some hx)).1, ← word]
  · next carried =>
    refine List.find?_eq_none.2 fun x hx same => carried ?_
    rw [beq_iff_eq] at same
    exact List.contains_iff_mem.2 (same ▸ (mem_strays_iff.1 hx).2.2)

/-- The first endpoint with a word among its strays is the first that carries the word. -/
theorem find?_flatMap_strays {es : List SurfaceEndpoint} (stray : HttpMethod.isRegular m = false) :
    (es.flatMap strays).find? (fun x => x.2 == m) =
      (es.find? fun e => e.methods.contains m).map fun e => (e, m) := by
  induction es with
  | nil => rfl
  | cons e rest ih =>
    rw [List.flatMap_cons, List.find?_append, find?_strays stray, List.find?_cons, ih]
    cases e.methods.contains m <;> rfl

theorem oneForEach_stray :
    OneForEach (CarriesStray side) (StrayIssue side) (invalidMethodIssues o side) := by
  refine oneForEach_firstBy (fun m => ?_) fun x found => ?_
  · show (∃ x ∈ side.endpoints.flatMap strays, x.2 = m) ↔ _
    simp only [List.mem_flatMap, mem_strays_iff]
    constructor
    · rintro ⟨x, ⟨e, he, -, stray, hm⟩, rfl⟩
      exact ⟨stray, e, he, hm⟩
    · rintro ⟨stray, e, he, hm⟩
      exact ⟨(e, m), ⟨e, he, rfl, stray, hm⟩, rfl⟩
  · -- The first word with an endpoint lies with the first endpoint that has the word.
    obtain ⟨e, -, hx⟩ := List.mem_flatMap.1 (List.mem_of_find?_eq_some found)
    have stray := (mem_strays_iff.1 hx).2.1
    obtain ⟨first, carries, hx⟩ :=
      Option.map_eq_some_iff.1 ((find?_flatMap_strays stray).symm.trans found)
    refine ⟨rfl, first, carries, ?_⟩
    rw [← hx]
    exact ⟨rfl, rfl, rfl⟩

/-! ## Type names -/

/-- What is reported of the type names of a side: of code, each that it declares and the
specification does not have, at its first declaration; of a specification, nothing. -/
def SchemaReport (side : Surface) (spec : Spec) (issues : List Issue) : Prop :=
  (side.isSpec = true → issues = []) ∧
  (side.isSpec = false →
    OneForEach (fun name => (∃ s ∈ side.schemas, s.name = name) ∧ name ∉ spec.schemaNames)
      (fun name i => ∃ s, side.schemas.find? (fun s => s.name == name) = some s ∧
        i.location = some ⟨some side.label, s.file, some s.line⟩ ∧
        i.message = "Type '" ++ name ++ "' declared in " ++ side.label ++
          " has no matching schema in the specification")
      issues)

theorem schemaReport_schemaIssues : SchemaReport side spec (schemaIssues o side spec) := by
  refine ⟨fun isSpec => ?_, fun isCode => ?_⟩
  · rw [schemaIssues, unknownSchemas, if_pos isSpec]
    rfl
  · rw [schemaIssues, unknownSchemas, isCode]
    refine oneForEach_firstBy_filter (fun name => !spec.schemaNames.contains name)
      (fun name => ?_) fun s found => ⟨s, found, rfl, rfl⟩
    simp

/-! ## Parameters unknown to the target -/

theorem exists_declaredParameters_iff :
    (∃ x ∈ declaredParameters side, x.1 = name) ↔ side.Declares name := by
  cases hs : side.spec with
  | some spec =>
    have sorted : declaredParameters side =
        (sortNames side.parameterNames).map fun name => (name, .ofSide side.label) := by
      rw [declaredParameters, hs]
    rw [sorted, ← Surface.mem_parameterNames_iff]
    simp [sortNames]
  | none =>
    rw [declaredParameters, Surface.Declares, hs]
    simp

theorem parameterNames_isEmpty_iff :
    side.parameterNames.isEmpty = true ↔ ∀ name, ¬ side.Declares name := by
  rw [List.isEmpty_iff, List.eq_nil_iff_forall_not_mem]
  exact forall_congr' fun name => not_congr Surface.mem_parameterNames_iff

theorem extraParameters_of_declares (declares : ∃ name, B.Declares name) :
    extraParameters A B =
      firstBy (·.1) [] ((declaredParameters A).filter fun p => !B.parameterNames.contains p.1) := by
  have known : ¬ B.parameterNames.isEmpty = true := by
    rw [parameterNames_isEmpty_iff, not_forall_not]
    exact declares
  rw [extraParameters, if_neg known]

/-- The issue is about the parameter, where the source first declares it. -/
def ExtraParameterIssue (A B : Surface) (name : String) (i : Issue) : Prop :=
  (∃ l, (declaredParameters A).find? (fun x => x.1 == name) = some (name, l) ∧
    i.location = some l) ∧
  i.message = "Parameter '" ++ name ++ "' in " ++ A.label ++ " is not declared by " ++ B.label

theorem oneForEach_extraParameter (declares : ∃ name, B.Declares name) :
    OneForEach (fun name => A.Declares name ∧ ¬ B.Declares name) (ExtraParameterIssue A B)
      (extraParameterIssues o A B) := by
  rw [extraParameterIssues, extraParameters_of_declares declares]
  refine oneForEach_firstBy_filter (fun name => !B.parameterNames.contains name)
    (fun name => ?_) fun x found => ⟨⟨x.2, found, rfl⟩, rfl⟩
  rw [exists_declaredParameters_iff, ← Surface.mem_parameterNames_iff (s := B)]
  simp

/-! ## The law -/

/-- Each word that an endpoint carries and that is no method is reported once for the source and
once for the target, at the first endpoint that carries it; where a specification takes part, each
type name that code declares and the specification does not have, once for each side that is code,
at its first declaration; and each parameter that the source declares and the target does not, once,
if the target declares any, and none else. -/
theorem compare_reports_names_once (o : CheckOptions) (on : o.includeWarnings = true)
    (minor : o.ignoreMinor = false) (A B : Surface) (extra : Option Spec)
    (degraded : List String) :
    let issues := (compare o A B extra degraded).issues
    (∃ ofA ofB, ofKind .invalidMethod issues = ofA ++ ofB ∧
      OneForEach (CarriesStray A) (StrayIssue A) ofA ∧
      OneForEach (CarriesStray B) (StrayIssue B) ofB) ∧
    (∀ spec, effectiveSpec A B extra = some spec →
      ∃ ofA ofB, ofKind .schemaMissing issues = ofA ++ ofB ∧
        SchemaReport A spec ofA ∧ SchemaReport B spec ofB) ∧
    (effectiveSpec A B extra = none → ofKind .schemaMissing issues = []) ∧
    ((∃ name, B.Declares name) →
      OneForEach (fun name => A.Declares name ∧ ¬ B.Declares name) (ExtraParameterIssue A B)
        (ofKind .parameterExtra issues)) ∧
    ((∀ name, ¬ B.Declares name) → ofKind .parameterExtra issues = []) := by
  intro issues
  have report (k : IssueKind) : ofKind k issues = found o A B extra k :=
    ofKind_issues_of_shown on
  have extras : ofKind .parameterExtra issues = extraParameterIssues o A B := by
    rw [report, found, minor]
    rfl
  refine ⟨?_, fun spec hs => ?_, fun none => ?_, fun declares => ?_, fun none => ?_⟩
  · exact ⟨_, _, report .invalidMethod, oneForEach_stray, oneForEach_stray⟩
  · refine ⟨schemaIssues o A spec, schemaIssues o B spec, ?_, schemaReport_schemaIssues,
      schemaReport_schemaIssues⟩
    rw [report, found, hs]
  · rw [report, found, none]
  · rw [extras]
    exact oneForEach_extraParameter declares
  · rw [extras, extraParameterIssues, extraParameters,
      if_pos (parameterNames_isEmpty_iff.2 none)]
    rfl

/-! ## Names that occur twice -/

/-- A form that is read with two words, neither of them a method, and that declares its type and its
token twice. -/
def formSide : Surface :=
  .ofFeatures "web"
    ⟨[⟨"/u", 1, "", none, none⟩, ⟨"/v", 2, "", none, none⟩],
      [⟨"FETCH", 1, "", none, none⟩, ⟨"GET", 1, "", none, none⟩, ⟨"SEND", 2, "", none, none⟩,
        ⟨"FETCH", 2, "", none, none⟩],
      [⟨"User", 3, none⟩, ⟨"Form", 4, none⟩, ⟨"Form", 9, none⟩],
      [⟨"q", none, 5, none⟩, ⟨"token", none, 6, none⟩, ⟨"token", none, 7, none⟩]⟩
    Surface.defaultWindow

/-- A specification of `/u` with one schema and one parameter. -/
def formSpec : Spec where
  version := "3.0"
  format := .openapi
  operations :=
    [⟨"/u", .get, none, none, [], [⟨"q", .query, false, none, none, none⟩], none, [], none, false⟩]
  schemas := [⟨"User", [], 0⟩]
  metadata := ⟨"Users", "1.0.0", none, [], none, none, none, [], none⟩
  securitySchemes := []
  document := []

/-- Each name is reported where it first occurs; a side without parameters makes none unknown, and
without a specification no type is. -/
theorem compare_reports_names_once_form :
    let B := Surface.ofSpec "api" formSpec
    let C := Surface.ofFeatures "old" .empty Surface.defaultWindow
    let of (k : IssueKind) (target : Surface) :=
      ofKind k (compare .default formSide target none []).issues
    (CheckOptions.default.includeWarnings = true ∧ CheckOptions.default.ignoreMinor = false ∧
      effectiveSpec formSide B none = some formSpec ∧ effectiveSpec formSide C none = none ∧
      (∃ name, B.Declares name) ∧ ∀ name, ¬ C.Declares name) ∧
    (∃ ofA ofB, of .schemaMissing B = ofA ++ ofB ∧
      SchemaReport formSide formSpec ofA ∧ SchemaReport B formSpec ofB) ∧
    OneForEach (fun name => formSide.Declares name ∧ ¬ B.Declares name)
      (ExtraParameterIssue formSide B) (of .parameterExtra B) ∧
    (of .schemaMissing C = [] ∧ of .parameterExtra C = []) ∧
    (of .invalidMethod B).map (fun i => (i.method, i.path)) =
      [(some "FETCH", some "/u"), (some "SEND", some "/v")] ∧
    (of .schemaMissing B ++ of .parameterExtra B).map
        (fun i => (i.message, i.location.bind (·.line))) =
      [("Type 'Form' declared in web has no matching schema in the specification", some 4),
        ("Parameter 'token' in web is not declared by api", some 6)] := by
  intro B C of
  have declares : ∃ name, B.Declares name := ⟨"q", _, .head _, _, .head _, rfl⟩
  have none_declares : ∀ name, ¬ C.Declares name := by
    rintro name ⟨p, hp, -⟩
    cases hp
  obtain ⟨-, schemas, -, extra, -⟩ := compare_reports_names_once .default rfl rfl formSide B none []
  obtain ⟨-, -, noSchemas, -, noExtra⟩ :=
    compare_reports_names_once .default rfl rfl formSide C none []
  exact ⟨⟨rfl, rfl, rfl, rfl, declares, none_declares⟩, schemas formSpec rfl, extra declares,
    ⟨noSchemas rfl, noExtra none_declares⟩, by decide +kernel, by decide +kernel⟩

end Comparison

end ApiAccord
