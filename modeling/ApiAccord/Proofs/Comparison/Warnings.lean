import ApiAccord.Proofs.Comparison.Kinds

/-!
# Comparisons that leave warnings out

Whether a comparison returns warnings bears on nothing that it finds: no step and no custom rule
looks at that option (`allIssues_withWarnings`).  So two runs that differ in the option alone agree
in the verdict, the score and the rules that ran, and one returns the errors among the issues that
the other returns (`compare_withWarnings`).
-/

namespace ApiAccord

/-- The options, with warnings returned or left out. -/
def CheckOptions.withWarnings (o : CheckOptions) (b : Bool) : CheckOptions :=
  { o with includeWarnings := b }

namespace Comparison

variable {o : CheckOptions} {source target : Surface} {extra : Option Spec}
  {degraded : List String} {b : Bool} {l : List Issue}

/-! ## What is found -/

/-- The steps look at the option for minor differences, and ask for severities and suggestions. -/
theorem coreIssues_withWarnings :
    coreIssues (o.withWarnings b) source target extra = coreIssues o source target extra :=
  rfl

/-- A custom rule asks the options for the severity of its issues only. -/
theorem rule_withWarnings {name : String} {rule : RuleContext → List Issue}
    (hr : customRule? name = some rule) :
    rule ⟨source, target, extra, o.withWarnings b⟩ = rule ⟨source, target, extra, o⟩ := by
  unfold customRule? at hr
  split at hr
  all_goals first | (obtain rfl := Option.some.inj hr; rfl) | cases hr

theorem customIssues_withWarnings :
    customIssues (o.withWarnings b) source target extra = customIssues o source target extra := by
  show o.customRules.flatMap _ = o.customRules.flatMap _
  congr 1
  funext name
  cases hr : customRule? name with
  | none => rfl
  | some rule => exact rule_withWarnings hr

theorem allIssues_withWarnings :
    allIssues (o.withWarnings b) source target extra = allIssues o source target extra := by
  simp only [allIssues, coreIssues_withWarnings, customIssues_withWarnings]

/-! ## What is returned -/

theorem returned_withWarnings_true : (o.withWarnings true).returned l = l := by
  simp [CheckOptions.returned, CheckOptions.withWarnings]

theorem returned_withWarnings_false :
    (o.withWarnings false).returned l = l.filter (·.severity != .warning) := by
  simp [CheckOptions.returned, CheckOptions.withWarnings]

/-- An issue that is no warning is an error. -/
theorem ne_warning_eq (i : Issue) : (i.severity != .warning) = (i.severity == .error) := by
  cases i.severity <;> rfl

/-- Every issue is an error or a warning, and none is both. -/
theorem length_eq_errors_add_warnings (l : List Issue) :
    l.length = l.countP (·.severity == .error) + l.countP (·.severity == .warning) := by
  induction l with
  | nil => rfl
  | cons i l ih => cases h : i.severity <;> simp [h, ih] <;> omega

/-- Leaving warnings out leaves the errors as they are. -/
theorem errors_returned :
    (o.returned l).countP (·.severity == .error) = l.countP (·.severity == .error) := by
  unfold CheckOptions.returned
  split
  · rfl
  · simp [ne_warning_eq, List.countP_filter]

/-- What is left out are the warnings. -/
theorem length_sub_length_filter (l : List Issue) :
    (l.length : Int) - (l.filter (·.severity != .warning)).length =
      l.countP (·.severity == .warning) := by
  have kept : (l.filter (·.severity != .warning)).length = l.countP (·.severity == .error) := by
    simp only [ne_warning_eq, List.countP_eq_length_filter]
  have all := length_eq_errors_add_warnings l
  omega

/-! ## One comparison -/

/-- The summary counts what is returned, and the verdict is that there is no error among it. -/
theorem summary_compare (o : CheckOptions) (source target : Surface) (extra : Option Spec)
    (degraded : List String) :
    let c := compare o source target extra degraded
    c.summary.totalIssues = c.issues.length ∧
      c.summary.totalIssues = c.summary.errorCount + c.summary.warningCount ∧
      (c.compatible = true ↔ c.summary.errorCount = 0) := by
  intro c
  refine ⟨rfl, length_eq_errors_add_warnings c.issues, ?_⟩
  have hc : c.summary.errorCount = (allIssues o source target extra).countP (·.severity == .error) :=
    errors_returned
  rw [hc, List.countP_eq_zero]
  simp [c, compare]

/-! ## Two comparisons -/

/-- Two comparisons that differ only in whether warnings are returned reach the same verdict, the
same score and apply the same rules.  The one without warnings returns what the other returns and is
no warning, in the same order, and counts the warnings of the other as suppressed. -/
theorem compare_withWarnings (o : CheckOptions) (source target : Surface) (extra : Option Spec)
    (degraded : List String) :
    let shown := compare (o.withWarnings true) source target extra degraded
    let hidden := compare (o.withWarnings false) source target extra degraded
    (hidden.compatible = shown.compatible ∧ hidden.summary.score = shown.summary.score ∧
      hidden.info.rulesApplied = shown.info.rulesApplied) ∧
    hidden.issues = shown.issues.filter (fun i => i.severity ≠ .warning) ∧
    (hidden.summary.suppressedCount = shown.summary.warningCount ∧
      shown.summary.suppressedCount = 0) ∧
    ∀ c ∈ [shown, hidden],
      c.summary.totalIssues = c.issues.length ∧
      c.summary.totalIssues = c.summary.errorCount + c.summary.warningCount ∧
      (c.compatible = true ↔ c.summary.errorCount = 0) := by
  intro shown hidden
  have found : ∀ b, allIssues (o.withWarnings b) source target extra =
      allIssues o source target extra := fun _ => allIssues_withWarnings
  have hs : shown.issues = allIssues o source target extra := by
    simp only [shown, compare, found, returned_withWarnings_true]
  have hh : hidden.issues =
      (allIssues o source target extra).filter (·.severity != .warning) := by
    simp only [hidden, compare, found, returned_withWarnings_false]
  refine ⟨⟨?_, ?_, rfl⟩, ?_, ⟨?_, ?_⟩, ?_⟩
  · simp only [shown, hidden, compare, found]
  · simp only [shown, hidden, compare, summarize, found]
  · rw [hs, hh]
    exact List.filter_congr fun i _ => by cases i.severity <;> rfl
  · show ((allIssues _ source target extra).length : Int) - hidden.issues.length =
      shown.issues.countP (·.severity == .warning)
    rw [hs, hh, found]
    exact length_sub_length_filter _
  · show ((allIssues _ source target extra).length : Int) - shown.issues.length = 0
    rw [hs, found]
    omega
  · intro c hc
    simp only [List.mem_cons, List.not_mem_nil, or_false] at hc
    rcases hc with rfl | rfl
    · exact summary_compare ..
    · exact summary_compare ..

end Comparison

end ApiAccord
