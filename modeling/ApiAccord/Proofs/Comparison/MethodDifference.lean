import ApiAccord.Proofs.Comparison.MethodMismatch
import ApiAccord.Proofs.Comparison.Reports

/-!
# What is reported of a pair

Of a pair whose endpoints both show methods, a comparison reports the symmetric difference of these:
first what the source has and the target lacks, then what the target has and the source lacks, each
in the order of its endpoint and with the path of that endpoint (`compare_reports_method_gaps`).
Only the former may come with an alternative, a method that the target does have.  Words that are no
methods leave no trace (`pairIssues_sifted`).
-/

namespace ApiAccord

variable {o : CheckOptions} {A B side : Surface} {a b e other : SurfaceEndpoint} {m s : String}
  {i : Issue}

/-- The endpoint without the words that are no methods. -/
def SurfaceEndpoint.sifted (e : SurfaceEndpoint) : SurfaceEndpoint :=
  { e with
    methods := e.regularMethods
    methodLines := e.methodLines.filter fun l => HttpMethod.isRegular l.1 }

namespace SurfaceEndpoint

theorem regularMethods_sifted : e.sifted.regularMethods = e.regularMethods := by
  simp [regularMethods, sifted]

theorem mem_regularMethods_iff : m ∈ e.regularMethods ↔ m ∈ e.methods ∧ HttpMethod.isRegular m := by
  rw [regularMethods, List.mem_filter]

end SurfaceEndpoint

namespace HttpMethod

theorem mem_of_similar {available : List String} (h : similar m available = some s) :
    s ∈ available := by
  rw [similar] at h
  simpa using List.find?_some h

end HttpMethod

namespace Comparison

/-! ## The issues of a pair -/

/-- The issue about a method of the source that the target does not support. -/
def unsupportedIssue (o : CheckOptions) (source target : Surface) (p : EndpointPair) (m : String) :
    Issue :=
  issue o .methodMismatch "method-consistency"
    (s!"{source.label} uses {m} {p.1.path}, but {target.label} only supports " ++
      ", ".intercalate p.2.regularMethods)
    (some (methodLocation source p.1 m)) (some p.1.path) (some m)
    (HttpMethod.similar m p.2.regularMethods).toList

/-- The issue about a method of the target that the source does not use. -/
def unusedIssue (o : CheckOptions) (source target : Surface) (p : EndpointPair) (m : String) :
    Issue :=
  issue o .methodMismatch "method-consistency"
    s!"{target.label} supports {m} {p.2.path}, but {source.label} never uses it"
    (some (methodLocation target p.2 m)) (some p.2.path) (some m) []

theorem pairIssues_of_silent (h : a.regularMethods = [] ∨ b.regularMethods = []) :
    pairIssues o A B (a, b) = [] := by
  have silent : (a.regularMethods.isEmpty || b.regularMethods.isEmpty) = true := by simpa using h
  rw [pairIssues, if_pos silent]

theorem pairIssues_of_shown (ha : a.regularMethods ≠ []) (hb : b.regularMethods ≠ []) :
    pairIssues o A B (a, b) =
      (methodsWithout a b).map (unsupportedIssue o A B (a, b)) ++
        (methodsWithout b a).map (unusedIssue o A B (a, b)) := by
  have shown : ¬ (a.regularMethods.isEmpty || b.regularMethods.isEmpty) = true := by
    simp [ha, hb]
  rw [pairIssues, if_neg shown]
  rfl

/-- What holds of the issues about methods that one endpoint has and the other lacks holds of all
issues of the pair. -/
theorem forall_mem_pairIssues {Q : Issue → Prop}
    (unsupported : ∀ m ∈ methodsWithout a b, Q (unsupportedIssue o A B (a, b) m))
    (unused : ∀ m ∈ methodsWithout b a, Q (unusedIssue o A B (a, b) m)) :
    ∀ i ∈ pairIssues o A B (a, b), Q i := by
  intro i hi
  by_cases h : a.regularMethods = [] ∨ b.regularMethods = []
  · rw [pairIssues_of_silent h] at hi
    cases hi
  · obtain ⟨ha, hb⟩ := not_or.1 h
    rw [pairIssues_of_shown ha hb] at hi
    rcases List.mem_append.1 hi with hi | hi
    · obtain ⟨m, hm, rfl⟩ := List.mem_map.1 hi
      exact unsupported m hm
    · obtain ⟨m, hm, rfl⟩ := List.mem_map.1 hi
      exact unused m hm

theorem methodsWithout_eq : methodsWithout e other =
    e.methods.filter fun m => HttpMethod.isRegular m ∧ m ∉ other.methods := by
  have own : e.regularMethods = e.methods.filter HttpMethod.isRegular := rfl
  rw [methodsWithout, own, List.filter_filter]
  refine List.filter_congr fun m _ => ?_
  by_cases hm : HttpMethod.isRegular m = true <;>
    simp [hm, SurfaceEndpoint.mem_regularMethods_iff]

/-- An issue has an alternative only if the source alone has its method, and the alternative is a
method of the target. -/
theorem alternative_of_mem_pairIssues (hi : i ∈ pairIssues o A B (a, b))
    (hs : i.suggestion = some s ∨ s ∈ i.suggestions) :
    s ∈ b.regularMethods ∧ i.path = some a.path ∧
      ∃ m ∈ a.regularMethods, m ∉ b.regularMethods ∧ i.method = some m := by
  revert hs
  refine forall_mem_pairIssues (Q := fun i => i.suggestion = some s ∨ s ∈ i.suggestions →
    s ∈ b.regularMethods ∧ i.path = some a.path ∧
      ∃ m ∈ a.regularMethods, m ∉ b.regularMethods ∧ i.method = some m) ?_ ?_ i hi
  · intro m hm hs
    have offered : s ∈ (HttpMethod.similar m b.regularMethods).toList := by
      rcases hs with hs | hs
      · exact List.mem_of_mem_head? hs
      · exact hs
    obtain ⟨has, lacks⟩ := mem_methodsWithout_iff.1 hm
    exact ⟨HttpMethod.mem_of_similar (Option.mem_toList.1 offered), rfl, m, has, lacks, rfl⟩
  · rintro m - (hs | hs)
    · cases hs
    · cases hs

/-! ## Each method once -/

theorem mem_methodsWithout_methods : m ∈ methodsWithout e other ↔
    HttpMethod.isRegular m = true ∧ m ∈ e.methods ∧ m ∉ other.methods := by
  rw [methodsWithout_eq, List.mem_filter, decide_eq_true_iff]
  tauto

/-- The issues of a pair are about the methods that exactly one of its endpoints has. -/
theorem oneForEach_gap (ha : a.methods.Nodup) (hb : b.methods.Nodup)
    (shown : a.regularMethods ≠ [] ∧ b.regularMethods ≠ []) :
    OneForEach (fun m => HttpMethod.isRegular m ∧ Xor (m ∈ a.methods) (m ∈ b.methods))
      (fun m i => i.method = some m ∧ i.path = some (if m ∈ a.methods then a.path else b.path))
      (pairIssues o A B (a, b)) := by
  rw [pairIssues_of_shown shown.1 shown.2]
  have unsupported : OneForEach (· ∈ methodsWithout a b)
      (fun m i => i.method = some m ∧ i.path = some (if m ∈ a.methods then a.path else b.path))
      ((methodsWithout a b).map (unsupportedIssue o A B (a, b))) := by
    refine oneForEach_map id ?_ (fun m => by rw [List.map_id]) fun m hm => ⟨rfl, ?_⟩
    · rw [List.map_id, methodsWithout_eq]
      exact ha.filter _
    · rw [id, if_pos (mem_methodsWithout_methods.1 hm).2.1]
      rfl
  have unused : OneForEach (· ∈ methodsWithout b a)
      (fun m i => i.method = some m ∧ i.path = some (if m ∈ a.methods then a.path else b.path))
      ((methodsWithout b a).map (unusedIssue o A B (a, b))) := by
    refine oneForEach_map id ?_ (fun m => by rw [List.map_id]) fun m hm => ⟨rfl, ?_⟩
    · rw [List.map_id, methodsWithout_eq]
      exact hb.filter _
    · rw [id, if_neg (mem_methodsWithout_methods.1 hm).2.2]
      rfl
  refine unsupported.append unused (fun m hm hm' => ?_) fun m => ?_
  · exact (mem_methodsWithout_methods.1 hm').2.2 (mem_methodsWithout_methods.1 hm).2.1
  · rw [mem_methodsWithout_methods, mem_methodsWithout_methods, ← and_or_left]
    rfl

/-! ## Words that are no methods -/

theorem lookup_filter_of_pos {β : Type} {good : String → Bool} {l : List (String × β)}
    (hm : good m = true) : (l.filter fun x => good x.1).lookup m = l.lookup m := by
  induction l with
  | nil => rfl
  | cons x rest ih =>
    rw [List.filter_cons]
    split
    · rw [List.lookup_cons, List.lookup_cons, ih]
    · next bad =>
      have ne : (m == x.1) = false := beq_false_of_ne fun h => bad (h ▸ hm)
      rw [ih, List.lookup_cons, ne]

theorem methodLocation_sifted (hm : HttpMethod.isRegular m = true) :
    methodLocation side e.sifted m = methodLocation side e m := by
  have line : e.sifted.methodLines.lookup m = e.methodLines.lookup m := lookup_filter_of_pos hm
  unfold methodLocation
  rw [line]
  rfl

theorem methodsWithout_sifted : methodsWithout e.sifted other.sifted = methodsWithout e other := by
  rw [methodsWithout, methodsWithout, SurfaceEndpoint.regularMethods_sifted,
    SurfaceEndpoint.regularMethods_sifted]

/-- Without the words that are no methods, the same is reported of a pair. -/
theorem pairIssues_sifted :
    pairIssues o A B (a.sifted, b.sifted) = pairIssues o A B (a, b) := by
  by_cases h : a.regularMethods = [] ∨ b.regularMethods = []
  · rw [pairIssues_of_silent h, pairIssues_of_silent]
    rwa [SurfaceEndpoint.regularMethods_sifted, SurfaceEndpoint.regularMethods_sifted]
  · obtain ⟨ha, hb⟩ := not_or.1 h
    rw [pairIssues_of_shown ha hb, pairIssues_of_shown, methodsWithout_sifted,
      methodsWithout_sifted]
    · -- Only methods are located, and their lines stay.
      congr 1
      · refine List.map_congr_left fun m hm => ?_
        have regular := (mem_methodsWithout_methods.1 hm).1
        simp only [unsupportedIssue, methodLocation_sifted regular,
          SurfaceEndpoint.regularMethods_sifted]
        rfl
      · refine List.map_congr_left fun m hm => ?_
        have regular := (mem_methodsWithout_methods.1 hm).1
        simp only [unusedIssue, methodLocation_sifted regular]
        rfl
    · rwa [SurfaceEndpoint.regularMethods_sifted]
    · rwa [SurfaceEndpoint.regularMethods_sifted]

/-! ## The law -/

/-- The mismatches of methods that a comparison finds are those of its pairs, in order.  A pair of
which an endpoint shows no method has none.  Of any other pair, the methods are reported that the
source has and the target lacks, then those that the target has and the source lacks, in the order
of the endpoint that has them and with its path.  On surfaces that are built this is each method
that exactly one of the endpoints has, once.  An alternative is a method of the target, and is
offered for methods of the source only.  Words that are no methods bear on nothing. -/
theorem compare_reports_method_gaps (o : CheckOptions) (A B : Surface) (extra : Option Spec)
    (degraded : List String) :
    ofKind .methodMismatch (compare o A B extra degraded).issues =
      o.returned ((pairs A B).flatMap (pairIssues o A B)) ∧
    ∀ a b, (a, b) ∈ pairs A B →
      (a.regularMethods = [] ∨ b.regularMethods = [] → pairIssues o A B (a, b) = []) ∧
      (a.regularMethods ≠ [] ∧ b.regularMethods ≠ [] →
        (pairIssues o A B (a, b)).map (fun i => (i.method, i.path)) =
          (a.methods.filter fun m => HttpMethod.isRegular m ∧ m ∉ b.methods).map
              (fun m => (some m, some a.path)) ++
            (b.methods.filter fun m => HttpMethod.isRegular m ∧ m ∉ a.methods).map
              (fun m => (some m, some b.path)) ∧
        (A.Built → B.Built →
          OneForEach (fun m => HttpMethod.isRegular m ∧ Xor (m ∈ a.methods) (m ∈ b.methods))
            (fun m i => i.method = some m ∧
              i.path = some (if m ∈ a.methods then a.path else b.path))
            (pairIssues o A B (a, b)))) ∧
      (∀ i ∈ pairIssues o A B (a, b), ∀ s, i.suggestion = some s ∨ s ∈ i.suggestions →
        s ∈ b.regularMethods ∧ i.path = some a.path ∧
          ∃ m ∈ a.regularMethods, m ∉ b.regularMethods ∧ i.method = some m) ∧
      pairIssues o A B (a.sifted, b.sifted) = pairIssues o A B (a, b) := by
  refine ⟨ofKind_issues, fun a b hp => ⟨pairIssues_of_silent, fun shown => ⟨?_, ?_⟩, ?_, ?_⟩⟩
  · rw [pairIssues_of_shown shown.1 shown.2, methodsWithout_eq, methodsWithout_eq, List.map_append,
      List.map_map, List.map_map]
    rfl
  · intro hA hB
    obtain ⟨ha, hb⟩ := mem_pairs_iff.1 hp
    exact oneForEach_gap (hA.nodup_methods ha) (hB.nodup_methods (List.mem_of_find?_eq_some hb))
      shown
  · exact fun i hi s hs => alternative_of_mem_pairIssues hi hs
  · exact pairIssues_sifted

/-! ## Words of all kinds on one path -/

/-- Code that uses some words as methods on `/users`. -/
def usersSide (label : String) (words : List String) : Surface :=
  .ofFeatures label
    ⟨[⟨"/users", 1, "", none, none⟩], words.map fun m => ⟨m, 1, "", none, none⟩, [], []⟩
    Surface.defaultWindow

/-- The one endpoint of that code. -/
def usersEndpoint (label : String) (words : List String) : SurfaceEndpoint :=
  ⟨"/users", words, some ⟨some label, none, some 1⟩, words.map fun m => (m, some 1), ["/users"]⟩

/-- `PUT` and `POST` are what one side only has, and `POST` is offered for `PUT`; neither `FETCH`
nor `TRACE` count. -/
theorem compare_reports_method_gaps_users :
    let A := usersSide "web" ["PUT", "FETCH", "GET"]
    let B := usersSide "api" ["GET", "TRACE", "POST"]
    let a := usersEndpoint "web" ["PUT", "FETCH", "GET"]
    let b := usersEndpoint "api" ["GET", "TRACE", "POST"]
    (A.Built ∧ B.Built ∧ (a, b) ∈ pairs A B ∧ a.regularMethods ≠ [] ∧ b.regularMethods ≠ []) ∧
      (pairIssues .default A B (a, b)).map (fun i => (i.method, i.path)) =
        [(some "PUT", some "/users"), (some "POST", some "/users")] ∧
      OneForEach (fun m => HttpMethod.isRegular m ∧ Xor (m ∈ a.methods) (m ∈ b.methods))
        (fun m i => i.method = some m ∧ i.path = some (if m ∈ a.methods then a.path else b.path))
        (pairIssues .default A B (a, b)) ∧
      (pairIssues .default A B (a, b)).map (·.suggestion) = [some "POST", none] := by
  intro A B a b
  have built : A.Built ∧ B.Built := ⟨.code .., .code ..⟩
  have pair : (a, b) ∈ pairs A B := by decide
  have shown : a.regularMethods ≠ [] ∧ b.regularMethods ≠ [] := by decide
  have law := ((compare_reports_method_gaps .default A B none []).2 a b pair).2.1 shown
  refine ⟨⟨built.1, built.2, pair, shown⟩, ?_, law.2 built.1 built.2, by decide⟩
  rw [law.1]
  decide

end Comparison

end ApiAccord
