import ApiAccord.Proofs.Comparison.Kinds

/-!
# What the options of a comparison decide

The options rank what is found and say how much is suggested, but they do not decide what is found.
`Finding` is an issue without the parts on which options bear.  Two comparisons that run the same
custom rules find the same, but for the parameters that one of them may leave out
(`findings_found`), and the severity of an issue is read off the options, the rule and the kind
(`severity_of_mem_allIssues`).
-/

namespace ApiAccord

/-- What an issue says, whatever the options make of it. -/
structure Finding where
  kind : IssueKind
  message : String
  location : Option Location
  rule : String
  path : Option String
  method : Option String
  /-- What a custom rule suggests; the suggestions of the core rules depend on options. -/
  advice : Option (Option String × List String)
deriving DecidableEq, Repr

/-- An issue without its severity, and without suggestions if it is one of a core rule. -/
def Issue.finding (i : Issue) : Finding where
  kind := i.kind
  message := i.message
  location := i.location
  rule := i.rule
  path := i.path
  method := i.method
  advice :=
    if Comparison.coreRules.contains i.rule then none else some (i.suggestion, i.suggestions)

namespace Comparison

variable {o o' : CheckOptions} {source target : Surface} {extra : Option Spec} {i : Issue}
  {k : IssueKind}

/-! ## Findings of the steps -/

/-- An issue of a core rule says the same under other options, with other suggestions. -/
theorem finding_issue {rule : String} (hr : coreRules.contains rule = true) (message : String)
    (location : Option Location) (path method : Option String) (ss ss' : List String) :
    (issue o k rule message location path method ss).finding =
      (issue o' k rule message location path method ss').finding := by
  unfold Issue.finding issue
  dsimp only
  rw [if_pos hr, if_pos hr]

/-- Issues that are made one by one say the same if each does. -/
theorem findings_map {α : Type} {f f' : α → Issue} (xs : List α)
    (h : ∀ x, (f x).finding = (f' x).finding) :
    (xs.map f).map Issue.finding = (xs.map f').map Issue.finding := by
  rw [List.map_map, List.map_map]
  exact List.map_congr_left fun x _ => h x

theorem findings_append {l l' m m' : List Issue}
    (hl : l.map Issue.finding = l'.map Issue.finding)
    (hm : m.map Issue.finding = m'.map Issue.finding) :
    (l ++ m).map Issue.finding = (l' ++ m').map Issue.finding := by
  rw [List.map_append, List.map_append, hl, hm]

theorem findings_flatMap {α : Type} {f f' : α → List Issue} (xs : List α)
    (h : ∀ x, (f x).map Issue.finding = (f' x).map Issue.finding) :
    (xs.flatMap f).map Issue.finding = (xs.flatMap f').map Issue.finding := by
  rw [List.map_flatMap, List.map_flatMap]
  exact congrArg (List.flatMap · xs) (funext h)

theorem findings_pairIssues (p : EndpointPair) :
    (pairIssues o source target p).map Issue.finding =
      (pairIssues o' source target p).map Issue.finding := by
  unfold pairIssues
  split
  · rfl
  · exact findings_append (findings_map _ fun _ => finding_issue (by decide) ..)
      (findings_map _ fun _ => finding_issue (by decide) ..)

theorem findings_invalidMethodIssues (side : Surface) :
    (invalidMethodIssues o side).map Issue.finding =
      (invalidMethodIssues o' side).map Issue.finding :=
  findings_map _ fun _ => finding_issue (by decide) ..

theorem findings_schemaIssues (side : Surface) (spec : Spec) :
    (schemaIssues o side spec).map Issue.finding =
      (schemaIssues o' side spec).map Issue.finding :=
  findings_map _ fun _ => finding_issue (by decide) ..

theorem findings_untypedIssues (side : Surface) :
    (untypedIssues o side).map Issue.finding = (untypedIssues o' side).map Issue.finding :=
  findings_map _ fun _ => finding_issue (by decide) ..

/-! ## Findings of the custom rules -/

/-- The options bear on the severity of the issues of a custom rule only. -/
theorem findings_rule {name : String} {rule : RuleContext → List Issue}
    (hr : customRule? name = some rule) :
    (rule ⟨source, target, extra, o⟩).map Issue.finding =
      (rule ⟨source, target, extra, o'⟩).map Issue.finding := by
  unfold customRule? at hr
  split at hr
  · obtain rfl := Option.some.inj hr
    unfold CustomRule.requireResponseSchemas
    rw [List.map_filterMap, List.map_filterMap]
    refine congrArg (List.filterMap · _) (funext fun x => ?_)
    dsimp only
    split <;> rfl
  · obtain rfl := Option.some.inj hr
    exact findings_append (findings_flatMap _ fun _ => findings_map _ fun _ => rfl)
      (findings_flatMap _ fun _ => findings_map _ fun _ => rfl)
  · obtain rfl := Option.some.inj hr
    exact findings_flatMap _ fun _ => findings_map _ fun _ => rfl
  · obtain rfl := Option.some.inj hr
    exact findings_flatMap _ fun _ => findings_flatMap _ fun _ => findings_map _ fun _ => rfl
  · cases hr

theorem findings_customIssues (rules : o.customRules = o'.customRules) :
    (customIssues o source target extra).map Issue.finding =
      (customIssues o' source target extra).map Issue.finding := by
  unfold customIssues
  rw [rules]
  refine findings_flatMap _ fun name => ?_
  cases hr : customRule? name with
  | none => rfl
  | some rule => exact findings_rule hr

/-! ## Findings of a comparison -/

/-- The steps for a kind find the same under other options, unless they are for parameters unknown
to the other side, which only one of the options may leave out. -/
theorem findings_found (rules : o.customRules = o'.customRules)
    (minor : k = .parameterExtra → o.ignoreMinor = o'.ignoreMinor) :
    (found o source target extra k).map Issue.finding =
      (found o' source target extra k).map Issue.finding := by
  cases k with
  | endpointMissing | endpointExtra | parameterMissing | parameterTypeMismatch =>
    exact findings_map _ fun _ => finding_issue (by decide) ..
  | methodMismatch => exact findings_flatMap _ findings_pairIssues
  | invalidMethod =>
    exact findings_append (findings_invalidMethodIssues _) (findings_invalidMethodIssues _)
  | schemaMissing =>
    dsimp only [found]
    split
    · exact findings_append (findings_schemaIssues _ _) (findings_schemaIssues _ _)
    · rfl
  | parameterMissingType =>
    exact findings_append (findings_untypedIssues _) (findings_untypedIssues _)
  | parameterExtra =>
    dsimp only [found]
    rw [minor rfl]
    split
    · rfl
    · exact findings_map _ fun _ => finding_issue (by decide) ..
  | specStructure => rfl
  | custom => exact findings_customIssues rules

theorem findings_allIssues (rules : o.customRules = o'.customRules)
    (minor : o.ignoreMinor = o'.ignoreMinor) :
    (allIssues o source target extra).map Issue.finding =
      (allIssues o' source target extra).map Issue.finding := by
  simp only [allIssues_eq, List.map_append, findings_found rules fun _ => minor]

/-- The issues about anything but parameters unknown to the other side. -/
def major (issues : List Issue) : List Issue := issues.filter fun i => i.kind ≠ .parameterExtra

theorem major_found (hk : k ≠ .parameterExtra) :
    major (found o source target extra k) = found o source target extra k :=
  List.filter_eq_self.2 fun i hi => by simp [(ranked_of_mem_found hi).1, hk]

theorem major_found_parameterExtra : major (found o source target extra .parameterExtra) = [] :=
  List.filter_eq_nil_iff.2 fun i hi => by simp [(ranked_of_mem_found hi).1]

theorem findings_major (rules : o.customRules = o'.customRules) :
    (major (allIssues o source target extra)).map Issue.finding =
      (major (allIssues o' source target extra)).map Issue.finding := by
  have step (k : IssueKind) : (major (found o source target extra k)).map Issue.finding =
      (major (found o' source target extra k)).map Issue.finding := by
    by_cases hk : k = .parameterExtra
    · rw [hk, major_found_parameterExtra, major_found_parameterExtra]
    · rw [major_found hk, major_found hk]
      exact findings_found rules fun h => absurd h hk
  have split (l l' : List Issue) : major (l ++ l') = major l ++ major l' := List.filter_append ..
  simp only [allIssues_eq, split, List.map_append, step]

/-! ## Severities -/

/-- The severity that a custom rule wants for its issues, if any. -/
def wantedBy (rule : String) : Option Severity :=
  if rule = "check-security-definitions" then some .error else none

theorem severity_of_customRule? {name : String} {rule : RuleContext → List Issue}
    (hr : customRule? name = some rule) (hi : i ∈ rule ⟨source, target, extra, o⟩) :
    i.severity = o.severityOf .custom (wantedBy i.rule) := by
  have made {α : Type} {f : α → Issue} {xs : List α}
      (hf : ∀ x, (f x).severity = o.severityOf .custom (wantedBy (f x).rule))
      (hi : i ∈ xs.map f) : i.severity = o.severityOf .custom (wantedBy i.rule) := by
    obtain ⟨x, -, rfl⟩ := List.mem_map.1 hi
    exact hf x
  unfold customRule? at hr
  split at hr
  · obtain rfl := Option.some.inj hr
    obtain ⟨x, -, hi⟩ := List.mem_filterMap.1 hi
    dsimp only at hi
    split at hi
    · cases hi
    · exact Option.some.inj hi ▸ rfl
  · obtain rfl := Option.some.inj hr
    rcases List.mem_append.1 hi with hi | hi
    · obtain ⟨x, -, hi⟩ := List.mem_flatMap.1 hi
      exact made (fun _ => rfl) hi
    · obtain ⟨x, -, hi⟩ := List.mem_flatMap.1 hi
      exact made (fun _ => rfl) hi
  · obtain rfl := Option.some.inj hr
    obtain ⟨x, -, hi⟩ := List.mem_flatMap.1 hi
    exact made (fun _ => rfl) hi
  · obtain rfl := Option.some.inj hr
    obtain ⟨x, -, hi⟩ := List.mem_flatMap.1 hi
    obtain ⟨y, -, hi⟩ := List.mem_flatMap.1 hi
    exact made (fun _ => rfl) hi
  · cases hr

/-- The options rank an issue by its kind; else the rule that found it does, else the kind
itself. -/
theorem severity_of_mem_allIssues (hi : i ∈ allIssues o source target extra) :
    i.severity = (o.overrides.lookup i.kind).getD
      (if i.kind = .custom ∧ i.rule = "check-security-definitions" then .error
        else i.kind.defaultSeverity) := by
  have hi := mem_allIssues_iff.1 hi
  by_cases hk : i.kind = .custom
  · rw [hk] at hi ⊢
    obtain ⟨name, -, hi⟩ := List.mem_flatMap.1 hi
    split at hi
    · next rule hr =>
      rw [severity_of_customRule? hr hi, CheckOptions.severityOf, wantedBy]
      by_cases hrule : i.rule = "check-security-definitions" <;>
        simp [hrule, CheckOptions.override?]
    · cases hi
  · rw [(ranked_of_mem_found hi).2 hk, if_neg fun h => hk h.1]
    rfl

/-! ## Two comparisons -/

/-- Two comparisons that return warnings and run the same custom rules find the same, in the same
order, once parameters unknown to the other side are left aside; and these too if both look for
them.  The severity of an issue is what the options say of its kind, else what its rule wants, else
that of the kind. -/
theorem compare_finds_same (o o' : CheckOptions) (shown : o.includeWarnings = true)
    (shown' : o'.includeWarnings = true) (rules : o.customRules = o'.customRules)
    (source target : Surface) (extra : Option Spec) (degraded : List String) :
    let c := compare o source target extra degraded
    let c' := compare o' source target extra degraded
    (c.issues.filter (fun i => i.kind ≠ .parameterExtra)).map Issue.finding =
      (c'.issues.filter (fun i => i.kind ≠ .parameterExtra)).map Issue.finding ∧
    (o.ignoreMinor = false → o'.ignoreMinor = false →
      c.issues.map Issue.finding = c'.issues.map Issue.finding) ∧
    ∀ i ∈ c.issues, i.severity = (o.overrides.lookup i.kind).getD
      (if i.kind = .custom ∧ i.rule = "check-security-definitions" then .error
        else i.kind.defaultSeverity) := by
  intro c c'
  have hc : c.issues = allIssues o source target extra := issues_compare shown
  have hc' : c'.issues = allIssues o' source target extra := issues_compare shown'
  rw [hc, hc']
  refine ⟨?_, fun minor minor' => ?_, fun i hi => severity_of_mem_allIssues hi⟩
  · exact findings_major rules
  · exact findings_allIssues rules (minor.trans minor'.symm)

/-! ## Two rankings of one comparison -/

/-- Options that look for slashes at the end of paths. -/
def attentive : CheckOptions := { CheckOptions.default with customRules := ["no-trailing-slash"] }

/-- Options that make little of missing endpoints and much of custom rules, suggest nothing and
leave out what is minor. -/
def lenient : CheckOptions where
  includeWarnings := true
  ignoreMinor := true
  customRules := ["no-trailing-slash"]
  overrides := [(.endpointMissing, .warning), (.custom, .error)]
  suggestionThreshold := 1
  maxSuggestions := 0

/-- A side with one path and one untyped parameter. -/
def lonePath (label path parameter : String) : Surface :=
  .ofFeatures label ⟨[⟨path, 1, "", none, none⟩], [], [], [⟨parameter, none, 2, none⟩]⟩
    Surface.defaultWindow

/-- Of the six issues that attentive options report, lenient ones leave out the extra parameter and
rank two others the other way. -/
theorem compare_finds_same_lenient :
    (attentive.includeWarnings = true ∧ lenient.includeWarnings = true ∧
      attentive.customRules = lenient.customRules) ∧
    (let c := compare attentive (lonePath "web" "/pet/" "q") (lonePath "api" "/pets" "r") none []
     let c' := compare lenient (lonePath "web" "/pet/" "q") (lonePath "api" "/pets" "r") none []
     (major c.issues).map Issue.finding = (major c'.issues).map Issue.finding ∧
      c.issues.map (fun i => (i.kind, i.severity)) =
        [(.endpointMissing, .error), (.endpointExtra, .warning), (.parameterMissingType, .warning),
          (.parameterMissingType, .warning), (.parameterExtra, .warning), (.custom, .warning)] ∧
      c'.issues.map (fun i => (i.kind, i.severity)) =
        [(.endpointMissing, .warning), (.endpointExtra, .warning),
          (.parameterMissingType, .warning), (.parameterMissingType, .warning),
          (.custom, .error)]) := by
  have same := compare_finds_same attentive lenient rfl rfl rfl (lonePath "web" "/pet/" "q")
    (lonePath "api" "/pets" "r") none []
  exact ⟨⟨rfl, rfl, rfl⟩, same.1, by decide +kernel, by decide +kernel⟩

end Comparison

end ApiAccord
