import ApiAccord.Issue

/-!
# Options of a check

`CheckOptions` says what a check reports and how it ranks it; `CheckOptions.severityOf` is the
severity of an issue: what the options say of its kind, else what the rule that found it says, else
the default of the kind.
-/

namespace ApiAccord

/-- What a check reports. -/
structure CheckOptions where
  /-- Whether warnings are among the issues that are returned. -/
  includeWarnings : Bool
  /-- Whether parameters unknown to the other side are left out. -/
  ignoreMinor : Bool
  /-- The names of further rules, in the order in which they run. -/
  customRules : List String
  /-- Severities that replace the default ones. -/
  overrides : List (IssueKind × Severity)
  /-- The score above which a name is suggested. -/
  suggestionThreshold : Float
  /-- The number of names suggested at most. -/
  maxSuggestions : Int

namespace CheckOptions

def default : CheckOptions := ⟨true, false, [], [], 0.3, 3⟩

/-- The severity that the options give to a kind of issue. -/
def override? (o : CheckOptions) (kind : IssueKind) : Option Severity := o.overrides.lookup kind

/-- The severity of an issue for which a rule wants the severity `wanted`, if any. -/
def severityOf (o : CheckOptions) (kind : IssueKind) (wanted : Option Severity) : Severity :=
  (o.override? kind).getD (wanted.getD kind.defaultSeverity)

/-- The issues that are returned. -/
def returned (o : CheckOptions) (issues : List Issue) : List Issue :=
  if o.includeWarnings then issues else issues.filter fun i => i.severity != .warning

/-- Reads options from a record. -/
def check (v : Value) : Checked CheckOptions :=
  (Record.members "CheckOptions" v).andThen fun ms =>
    CheckOptions.mk <$> Record.field ms ["include_warnings"] true Field.truth <*>
      Record.field ms ["ignore_minor_differences"] false Field.truth <*>
      Record.field ms ["custom_rules"] [] (Field.listOf Field.text) <*>
      Record.field ms ["severity_overrides"] [] (Field.mappingOf IssueKind.check Severity.check) <*>
      Record.field ms ["suggestion_threshold"] 0.3
        (Field.satisfying (fun x => decide (0 ≤ x)) (.tooSmall "0")
          (Field.satisfying (fun x => decide (x ≤ 1)) (.tooGreat "1") Field.number)) <*>
      Record.field ms ["max_suggestions"] 3
        (Field.satisfying (fun n => decide (0 ≤ n)) (.tooSmall "0") Field.whole)

/-- The options as a record. -/
def toValue (o : CheckOptions) : Value :=
  .ofNamed [
    ("include_warnings", .bool o.includeWarnings),
    ("ignore_minor_differences", .bool o.ignoreMinor),
    ("custom_rules", .list (o.customRules.map .str)),
    ("severity_overrides", .ofNamed (o.overrides.map fun (k, s) => (k.name, .str s.name))),
    ("suggestion_threshold", .float o.suggestionThreshold),
    ("max_suggestions", .int o.maxSuggestions)]

end CheckOptions

end ApiAccord
