import ApiAccord.Proofs.Comparison.Reports
import ApiAccord.Proofs.Surface

/-!
# Required parameters that are not sent

What an operation requires outside of its path, and the source never names, is reported once for
each path, method and name, however many pairs lead to the operation and however often the operation
lists the name (`compare_reports_unsent_once`).
-/

namespace ApiAccord

namespace Comparison

variable {A B : Surface} {spec : Spec} {p : EndpointPair} {op : Operation} {u : UnsentParameter}
  {t : String × String × String}

/-- The operation is one that the source endpoint of a pair asks for: it is on the path of the
target endpoint, and the source endpoint shows no method or that of the operation. -/
def AsksFor (p : EndpointPair) (op : Operation) : Prop :=
  EndpointPath.normalize op.path = p.2.path ∧
    (p.1.regularMethods = [] ∨ op.method.token ∈ p.1.regularMethods)

/-- Some pair asks for an operation with the path and the method that requires the parameter
outside of its path, and the source declares no parameter of that name. -/
def LeftUnsent (A B : Surface) (spec : Spec) (path method name : String) : Prop :=
  (∃ p ∈ pairs A B, ∃ op ∈ spec.operations, op.path = path ∧ op.method.token = method ∧
    AsksFor p op ∧ ∃ q ∈ op.parameters, q.name = name ∧ q.required = true ∧ q.place ≠ .path) ∧
  ¬ A.Declares name

theorem mem_operationsOn_iff {es : List SurfaceEndpoint} : op ∈ operationsOn spec es ↔
    op ∈ spec.operations ∧ ∃ e ∈ es, EndpointPath.normalize op.path = e.path := by
  simp [operationsOn, eq_comm]

theorem mem_unsentOfPair_iff : u ∈ unsentOfPair A spec p ↔
    u.endpoint = p.1 ∧ u.operation ∈ spec.operations ∧ AsksFor p u.operation ∧
      u.parameter ∈ u.operation.parameters ∧ u.parameter.required = true ∧
      u.parameter.place ≠ .path ∧ ¬ A.Declares u.parameter.name := by
  simp only [unsentOfPair, List.mem_flatMap, List.mem_filter, List.mem_map, mem_operationsOn_iff,
    List.mem_singleton, exists_eq_left, Bool.or_eq_true, List.isEmpty_iff, List.contains_iff_mem,
    Bool.and_eq_true, bne_iff_ne, Bool.not_eq_true', ← Bool.not_eq_true,
    Surface.mem_parameterNames_iff]
  constructor
  · rintro ⟨op, ⟨⟨hop, path⟩, method⟩, q, ⟨hq, ⟨required, place⟩, unsent⟩, rfl⟩
    exact ⟨rfl, hop, ⟨path, method⟩, hq, required, place, unsent⟩
  · rintro ⟨endpoint, hop, ⟨path, method⟩, hq, required, place, unsent⟩
    refine ⟨u.operation, ⟨⟨hop, path⟩, method⟩, u.parameter, ⟨hq, ⟨required, place⟩, unsent⟩, ?_⟩
    rw [← endpoint]

/-- What the pairs leave unsent, by path, method and name. -/
theorem exists_unsentOfPair_iff :
    (∃ u ∈ (pairs A B).flatMap (unsentOfPair A spec), u.key = t) ↔
      LeftUnsent A B spec t.1 t.2.1 t.2.2 := by
  simp only [List.mem_flatMap, mem_unsentOfPair_iff]
  constructor
  · rintro ⟨u, ⟨p, hp, -, hop, asks, hq, required, place, unsent⟩, rfl⟩
    exact ⟨⟨p, hp, u.operation, hop, rfl, rfl, asks, u.parameter, hq, rfl, required, place⟩,
      unsent⟩
  · rintro ⟨⟨p, hp, op, hop, path, method, asks, q, hq, name, required, place⟩, unsent⟩
    exact ⟨⟨p.1, op, q⟩, ⟨p, hp, rfl, hop, asks, hq, required, place, name ▸ unsent⟩,
      Prod.ext path (Prod.ext method name)⟩

/-- The issue is about the parameter of the operation with the path and the method. -/
def UnsentIssue (A B : Surface) (path method name : String) (i : Issue) : Prop :=
  i.path = some path ∧ i.method = some method ∧ ∃ place : ParameterPlace,
    i.message = "Required " ++ place.name ++ " parameter '" ++ name ++ "' of " ++ method ++ " " ++
      path ++ " in " ++ B.label ++ " is not sent by " ++ A.label

/-- Where the target is a specification, the issues about missing parameters correspond to the
paths, methods and names that are left unsent: each has one issue, and there are no others. -/
theorem compare_reports_unsent_once (o : CheckOptions) (on : o.includeWarnings = true)
    (A B : Surface) (spec : Spec) (hB : B.spec = some spec) (extra : Option Spec)
    (degraded : List String) :
    OneForEach (fun t : String × String × String => LeftUnsent A B spec t.1 t.2.1 t.2.2)
      (fun t i => UnsentIssue A B t.1 t.2.1 t.2.2 i)
      (ofKind .parameterMissing (compare o A B extra degraded).issues) := by
  rw [ofKind_issues_of_shown on]
  have unsent : unsentParameters A B =
      firstBy UnsentParameter.key [] ((pairs A B).flatMap (unsentOfPair A spec)) := by
    rw [unsentParameters, hB]
  rw [found, unsentIssues, unsent]
  exact oneForEach_firstBy (fun _ => exists_unsentOfPair_iff)
    fun u _ => ⟨rfl, rfl, u.parameter.place, rfl⟩

/-! ## Two paths that lead to one operation -/

/-- A specification that reads and changes `/u/{id}`; what is read by is required twice. -/
def userSpec : Spec where
  version := "3.0"
  format := .openapi
  operations :=
    [⟨"/u/\x7bid\x7d", .get, none, none, [],
      [⟨"id", .path, true, none, none, none⟩, ⟨"q", .query, true, none, none, none⟩,
        ⟨"page", .query, false, none, none, none⟩, ⟨"q", .header, true, none, none, none⟩],
      none, [], none, false⟩,
    ⟨"/u/\x7bid\x7d", .post, none, none, [], [⟨"token", .header, true, none, none, none⟩], none, [],
      none, false⟩]
  schemas := []
  metadata := ⟨"Users", "1.0.0", none, [], none, none, none, [], none⟩
  securitySchemes := []
  document := []

/-- Code that reads two users. -/
def userSide : Surface :=
  .ofFeatures "web" ⟨[⟨"/u/1", 1, "", none, none⟩, ⟨"/u/2", 2, "", none, none⟩],
    [⟨"GET", 1, "", none, none⟩, ⟨"GET", 2, "", none, none⟩], [], []⟩ Surface.defaultWindow

/-- Of what the two operations require, only `q` of the one that is asked for is reported, and once
although two paths lead there. -/
theorem compare_reports_unsent_once_users :
    CheckOptions.default.includeWarnings = true ∧
    (Surface.ofSpec "api" userSpec).spec = some userSpec ∧
    OneForEach
      (fun t : String × String × String =>
        LeftUnsent userSide (.ofSpec "api" userSpec) userSpec t.1 t.2.1 t.2.2)
      (fun t i => UnsentIssue userSide (.ofSpec "api" userSpec) t.1 t.2.1 t.2.2 i)
      (ofKind .parameterMissing
        (compare .default userSide (.ofSpec "api" userSpec) none []).issues) ∧
    (ofKind .parameterMissing
      (compare .default userSide (.ofSpec "api" userSpec) none []).issues).map (·.message) =
        ["Required query parameter 'q' of GET /u/\x7bid\x7d in api is not sent by web"] :=
  ⟨rfl, rfl, compare_reports_unsent_once .default rfl userSide (.ofSpec "api" userSpec) userSpec rfl
    none [], by decide +kernel⟩

end Comparison

end ApiAccord
