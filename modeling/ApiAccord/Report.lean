import ApiAccord.Issue

/-!
# Reports

A report sums up a list of issues: a score from 0 to 100, counts, and recommendations.
-/

namespace ApiAccord

/-! ### Score -/

/-- What an issue costs. -/
def Severity.weight : Severity → Nat
  | .error => 10
  | .warning => 5

/-- The weight of all issues. -/
def totalWeight (issues : List Issue) : Nat :=
  issues.foldr (fun i total => i.severity.weight + total) 0

/-- The integer nearest to `num / den`, a half going up. -/
def roundHalfUp (num : Int) (den : Nat) : Int := (2 * num + den).fdiv (2 * den)

/-- A hundred less the weight of the issues in percent of the number of endpoints, rounded, and not
less than zero. -/
def compatibilityScore (issues : List Issue) (endpointTotal : Int) : Nat :=
  let n := (max endpointTotal 1).toNat
  (roundHalfUp (100 * n - 100 * totalWeight issues) n).toNat

/-! ### Summary -/

/-- The counts of a check. -/
structure Summary where
  totalIssues : Nat
  errorCount : Nat
  warningCount : Nat
  suppressedCount : Int
  score : Nat
  missingEndpoints : Nat
  extraEndpoints : Nat
  affectedEndpoints : Nat
deriving DecidableEq, Repr

/-- Counts the issues that are returned; `score` comes from all that were found. -/
def summarize (issues : List Issue) (score : Nat) (suppressed : Int) : Summary where
  totalIssues := issues.length
  errorCount := issues.countP fun i => i.severity == .error
  warningCount := issues.countP fun i => i.severity == .warning
  suppressedCount := suppressed
  score := score
  missingEndpoints := issues.countP fun i => i.kind == .endpointMissing
  extraEndpoints := issues.countP fun i => i.kind == .endpointExtra
  affectedEndpoints := ((issues.filterMap (·.path)).filter (· != "")).eraseDups.length

/-! ### Recommendations -/

inductive Priority where
  | high
  | medium
  | low
deriving DecidableEq, Repr

def Priority.name : Priority → String
  | .high => "high"
  | .medium => "medium"
  | .low => "low"

/-- Something to do about the issues of one group. -/
structure Recommendation where
  priority : Priority
  category : String
  text : String
  action : String
deriving DecidableEq, Repr

/-- Advice on a kind of issue: its category, its priority while no error is among the issues, the
text for their number, and what to do. -/
structure Advice where
  category : String
  priority : Priority
  text : Nat → String
  action : String

/-- The advice on a kind of issue; `rule` names the rule that reported custom ones. -/
def IssueKind.advice (rule : String) : IssueKind → Advice
  | .endpointMissing =>
    ⟨"compatibility", .medium, fun n => s!"{n} endpoint(s) are called but not provided",
      "Implement the missing endpoints or correct the calling paths"⟩
  | .endpointExtra =>
    ⟨"maintainability", .low, fun n => s!"{n} endpoint(s) are provided but never called",
      "Remove unused endpoints or add the corresponding calls"⟩
  | .methodMismatch =>
    ⟨"compatibility", .medium, fun n => s!"{n} HTTP method(s) differ between the two sides",
      "Align the HTTP methods used for each shared path"⟩
  | .invalidMethod =>
    ⟨"correctness", .medium, fun n => s!"{n} token(s) used as HTTP methods are not valid verbs",
      "Use one of GET, POST, PUT, DELETE, PATCH, HEAD, or OPTIONS"⟩
  | .schemaMissing =>
    ⟨"documentation", .low,
      fun n => s!"{n} type(s) declared in code are missing from the spec schemas",
      "Add the schemas to components.schemas or rename the types to match"⟩
  | .parameterMissingType =>
    ⟨"type-safety", .low, fun n => s!"{n} parameter(s) have no type annotation",
      "Annotate parameters with explicit types"⟩
  | .parameterMissing =>
    ⟨"compatibility", .medium,
      fun n => s!"{n} required parameter(s) declared by the target are never sent",
      "Pass the required parameters or make them optional in the target"⟩
  | .parameterTypeMismatch =>
    ⟨"type-safety", .medium, fun n => s!"{n} parameter(s) are typed differently on the two sides",
      "Align the parameter types on both sides"⟩
  | .parameterExtra =>
    ⟨"compatibility", .low, fun n => s!"{n} parameter(s) are not declared by the other side",
      "Remove the parameters or declare them on the other side"⟩
  | .specStructure =>
    ⟨"specification", .medium,
      fun n => s!"{n} structural problem(s) found in the specification",
      "Fix the specification document structure"⟩
  | .custom =>
    ⟨"custom", .medium, fun n => s!"{n} issue(s) reported by rule '" ++ rule ++ "'",
      "Review the findings of rule '" ++ rule ++ "'"⟩

/-- What issues are grouped by: their kind, and the rule of custom ones. -/
def Issue.group (i : Issue) : IssueKind × String :=
  (i.kind, if i.kind == .custom then i.rule else "")

/-- The groups that occur, in order of first occurrence. -/
def issueGroups (issues : List Issue) : List (IssueKind × String) :=
  (issues.map Issue.group).eraseDups

/-- The recommendation for one group. -/
def recommendGroup (issues : List Issue) (group : IssueKind × String) : Recommendation :=
  let members := issues.filter fun i => i.group == group
  let advice := group.1.advice group.2
  { priority := if members.any (·.severity == .error) then .high else advice.priority
    category := advice.category
    text := advice.text members.length
    action := advice.action }

/-- Scores below this call for a review of the whole interface. -/
def lowScore : Nat := 70

/-- The recommendation for a low score. -/
def recommendReview (score : Nat) : Recommendation where
  priority := .high
  category := "compatibility"
  text := s!"Low compatibility score: {score}%"
  action := "Review and fix API interface mismatches systematically"

/-- Orders recommendations from high to low; equal priorities keep their order. -/
def byPriority (rs : List Recommendation) : List Recommendation :=
  rs.filter (·.priority == .high) ++ rs.filter (·.priority == .medium) ++
    rs.filter (·.priority == .low)

/-- One recommendation for each group of issues, and one for a low score. -/
def recommend (issues : List Issue) (score : Option Nat) : List Recommendation :=
  let review := match score with
    | some n => if n < lowScore then [recommendReview n] else []
    | none => []
  byPriority ((issueGroups issues).map (recommendGroup issues) ++ review)

end ApiAccord
