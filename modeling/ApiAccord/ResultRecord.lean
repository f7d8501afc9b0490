import ApiAccord.Comparison
import ApiAccord.Feature.Record

/-!
# Results as records

The outcome of a comparison or validation as a value that can be printed.  A `Stamp` says when the
result came about and how long that took.
-/

namespace ApiAccord

/-- When a result came about, and the milliseconds that it took. -/
structure Stamp where
  time : String
  duration : Value

def Location.toValue (l : Location) : Value :=
  .ofNamed [
    ("side", .ofText? l.side),
    ("file", .ofText? l.file),
    ("line", (l.line.map Value.int).getD .null)]

def Issue.toValue (i : Issue) : Value :=
  .ofNamed [
    ("type", .str i.kind.name),
    ("severity", .str i.severity.name),
    ("message", .str i.message),
    ("location", (i.location.map Location.toValue).getD .null),
    ("suggestion", .ofText? i.suggestion),
    ("suggestions", .list (i.suggestions.map .str)),
    ("rule", .str i.rule),
    ("path", .ofText? i.path),
    ("method", .ofText? i.method)]

def Summary.toValue (s : Summary) : Value :=
  .ofNamed [
    ("total_issues", .int s.totalIssues),
    ("error_count", .int s.errorCount),
    ("warning_count", .int s.warningCount),
    ("suppressed_count", .int s.suppressedCount),
    ("compatibility_score", .int s.score),
    ("missing_endpoints", .int s.missingEndpoints),
    ("extra_endpoints", .int s.extraEndpoints),
    ("affected_endpoints", .int s.affectedEndpoints)]

def Recommendation.toValue (r : Recommendation) : Value :=
  .ofNamed [
    ("priority", .str r.priority.name),
    ("category", .str r.category),
    ("text", .str r.text),
    ("action", .str r.action)]

def ResultInfo.toValue (stamp : Option Stamp) (i : ResultInfo) : Value :=
  let stamped := match stamp with
    | some s => [("timestamp", Value.str s.time), ("duration_ms", s.duration)]
    | none => []
  .ofNamed (stamped ++ [
    ("source_label", .str i.sourceLabel),
    ("target_label", .str i.targetLabel),
    ("source_endpoint_count", .int i.sourceEndpoints),
    ("target_endpoint_count", .int i.targetEndpoints),
    ("rules_applied", .list (i.rulesApplied.map .str)),
    ("degraded_sides", .list (i.degradedSides.map .str)),
    ("spec_version", .ofText? i.specVersion)])

def Comparison.toValue (stamp : Option Stamp) (c : Comparison) : Value :=
  .ofNamed [
    ("is_compatible", .bool c.compatible),
    ("issues", .list (c.issues.map Issue.toValue)),
    ("summary", c.summary.toValue),
    ("recommendations", .list (c.recommendations.map Recommendation.toValue)),
    ("metadata", c.info.toValue stamp)]

def Validation.toValue (stamp : Option Stamp) (r : Validation) : Value :=
  .ofNamed [
    ("is_valid", .bool r.valid),
    ("errors", .list (r.errors.map Issue.toValue)),
    ("warnings", .list (r.warnings.map Issue.toValue)),
    ("summary", r.summary.toValue),
    ("recommendations", .list (r.recommendations.map Recommendation.toValue)),
    ("metadata", r.info.toValue stamp),
    ("validation_type", .str r.subject)]

end ApiAccord
