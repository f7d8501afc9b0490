import ApiAccord.Proofs.Comparison.Reports
import ApiAccord.Proofs.Document.Structure
import Mathlib.Data.Finset.Card
import Mathlib.Data.List.ProdSigma

/-!
# What the check of a document reports

The check of a document has an error for each of the requirements that the document violates, a
warning for each template that has the key of an earlier one, and a warning for each operation
without responses (`checkStructure_reports`).  The check goes through the paths once and remembers
the first template with each key; what it remembers finds the same paths as the templates that were
passed do (`Remembers`).
-/

namespace ApiAccord.Structure

open Comparison (OneForEach oneForEach_map)
open EndpointPath (isTemplate templateKey)

variable {o : CheckOptions} {doc : Value} {found : List Finding} {items rest : Members}
  {seen earlier paths : List String} {path : String}

/-! ## Requirements -/

/-- What a document must be, and which members it must have. -/
inductive Requirement where
  | mapping
  | version
  | info
  | paths
deriving DecidableEq

/-- A document violates a requirement.  If it is no mapping, its members are not asked for. -/
def Violates (doc : Value) : Requirement → Prop
  | .mapping => doc.isMap = false
  | .version => ∃ ms : Members, doc = .map ms ∧ ms.has "openapi" = false ∧ ms.has "swagger" = false
  | .info => ∃ ms : Members, doc = .map ms ∧ ms.has "info" = false
  | .paths => ∃ ms : Members, doc = .map ms ∧ ¬ ∃ items, ms.get? "paths" = some (.map items)

/-- A document has the structure that is asked for. -/
def WellStructured (doc : Value) : Prop :=
  ∃ ms : Members, doc = .map ms ∧ (ms.has "openapi" = true ∨ ms.has "swagger" = true) ∧
    ms.has "info" = true ∧ ∃ items, ms.get? "paths" = some (.map items)

/-- What is said of a document that violates a requirement. -/
def Requirement.complaint (doc : Value) : Requirement → String
  | .mapping => "Specification must be an object, got " ++ doc.kindName
  | .version => "Missing required field 'openapi' or 'swagger'"
  | .info => "Missing required field 'info'"
  | .paths =>
    if (doc.members?.bind (Members.get? "paths")).isSome then "Field 'paths' must be an object"
    else "Missing required field 'paths'"

/-- The members that a mapping lacks as a document. -/
def lacks (ms : Members) : List Requirement :=
  (if ms.has "openapi" || ms.has "swagger" then [] else [.version]) ++
    (if ms.has "info" then [] else [.info]) ++
    (if (ms.get? "paths").any Value.isMap then [] else [.paths])

/-- The requirements that a document violates, in the order in which they are asked for. -/
def violations : Value → List Requirement
  | .map ms => lacks ms
  | _ => [.mapping]

theorem any_isMap_iff {x : Option Value} :
    x.any Value.isMap = true ↔ ∃ items, x = some (.map items) := by
  cases x with
  | none => simp
  | some v => cases v <;> simp [Value.isMap]

theorem topProblems_eq (doc : Value) :
    topProblems doc = (violations doc).map (·.complaint doc) := by
  cases doc with
  | map ms =>
    rw [topProblems, missing, violations, lacks, List.map_append, List.map_append]
    refine congrArg₂ _ (congrArg₂ _ ?_ ?_) ?_
    · rw [apply_ite (List.map _)]
      rfl
    · rw [apply_ite (List.map _)]
      rfl
    · have complaint : Requirement.paths.complaint (.map ms) =
          if (Members.get? "paths" ms).isSome then "Field 'paths' must be an object"
          else "Missing required field 'paths'" := rfl
      cases hp : Members.get? "paths" ms with
      | none =>
        rw [Option.any_none, if_neg Bool.false_ne_true, List.map_singleton, complaint, hp]
        rfl
      | some v =>
        rw [Option.any_some, apply_ite (List.map _), List.map_singleton, complaint, hp]
        rfl
  | _ => rfl

theorem nodup_violations (doc : Value) : (violations doc).Nodup := by
  cases doc with
  | map ms =>
    rw [violations, lacks]
    split <;> split <;> split <;> decide
  | _ => exact List.nodup_singleton _

theorem mem_violations_iff {r : Requirement} : r ∈ violations doc ↔ Violates doc r := by
  cases doc with
  | map ms =>
    cases r with
    | paths =>
      have lacking : .paths ∈ lacks ms ↔ ¬ (Members.get? "paths" ms).any Value.isMap = true := by
        simp [lacks]
      rw [violations, lacking, any_isMap_iff]
      simp [Violates]
    | _ => simp [violations, lacks, Violates, Value.isMap]
  | _ => cases r <;> simp [violations, Violates, Value.isMap]

theorem violations_eq_nil_iff : violations doc = [] ↔ WellStructured doc := by
  cases doc with
  | map ms =>
    have lacking : lacks ms = [] ↔ (Members.has "openapi" ms || Members.has "swagger" ms) = true ∧
        Members.has "info" ms = true ∧ (Members.get? "paths" ms).any Value.isMap = true := by
      simp [lacks, imp_iff_not_or]
    rw [violations, lacking, Bool.or_eq_true, any_isMap_iff]
    simp [WellStructured]
  | _ => simp [violations, WellStructured]

/-! ## Templates with the key of an earlier one -/

/-- The templates among some paths. -/
def templates (paths : List String) : List String := paths.filter isTemplate

theorem templates_concat (paths : List String) (path : String) :
    templates (paths ++ [path]) = templates paths ++ if isTemplate path then [path] else [] := by
  rw [templates, List.filter_append, templates, List.filter_cons, List.filter_nil]

/-- What is said of two templates with one key. -/
def ambiguous (other path : String) : Finding :=
  ⟨"Path templates " ++ other ++ " and " ++ path ++ " are ambiguous", path, none⟩

/-- The finding on a path after the templates `seen`. -/
def ambiguity? (seen : List String) (path : String) : Option Finding :=
  if isTemplate path then (firstLike path seen).map (ambiguous · path) else none

/-- The templates to remember after a path. -/
def seenAfter (seen : List String) (path : String) : List String :=
  if isTemplate path && (firstLike path seen).isNone then seen ++ [path] else seen

/-- One path adds its findings to those on the later ones. -/
theorem findings_cons_eq (seen : List String) (path : String) (item : Value) (rest : Members) :
    findings seen ((.str path, item) :: rest) =
      (findings (seenAfter seen path) rest).map
        ((ambiguity? seen path).toList ++ silentOperations path item ++ ·) := by
  have add (seen' : List String) (first : List Finding) :
      (do return first ++ silentOperations path item ++ (← findings seen' rest)) =
        (findings seen' rest).map (first ++ silentOperations path item ++ ·) := by
    cases findings seen' rest <;> rfl
  rw [findings, seenAfter, ambiguity?]
  cases isTemplate path with
  | false => exact add seen []
  | true =>
    cases firstLike path seen with
    | none => exact add (seen ++ [path]) []
    | some other => exact add seen [ambiguous other path]

/-- Paths lead to the same first template among those that are remembered as among all earlier
ones. -/
def Remembers (seen earlier : List String) : Prop :=
  ∀ path, firstLike path seen = firstLike path (templates earlier)

theorem firstLike_concat (path other : String) (l : List String) :
    firstLike path (l ++ [other]) =
      (firstLike path l).or
        (if templateKey other = templateKey path then some other else none) := by
  rw [firstLike, List.find?_append, List.find?_singleton]
  simp only [beq_iff_eq]
  rfl

theorem Remembers.seenAfter (h : Remembers seen earlier) (path : String) :
    Remembers (seenAfter seen path) (earlier ++ [path]) := by
  intro q
  rw [templates_concat, Structure.seenAfter]
  cases isTemplate path with
  | false => simpa using h q
  | true =>
    cases known : firstLike path seen with
    | none =>
      simp only [Option.isNone_none, Bool.and_self, if_true, firstLike_concat, h q]
    | some first =>
      simp only [Option.isNone_some, Bool.and_false, Bool.false_eq_true, if_false, if_true,
        firstLike_concat, h q]
      split
      · next same =>
        -- A path with the same key leads to what is remembered for it already.
        have leads : firstLike q (templates earlier) = some first := by
          rw [← h q, ← known, firstLike, firstLike, same]
        rw [leads, Option.some_or]
      · rw [Option.or_none]

/-- The findings on templates of some paths, after the `earlier` ones. -/
def ambiguities : (earlier paths : List String) → List Finding
  | _, [] => []
  | earlier, path :: rest =>
    (ambiguity? (templates earlier) path).toList ++ ambiguities (earlier ++ [path]) rest

/-- The paths among the keys of a mapping. -/
def pathTexts (items : Members) : List String :=
  items.filterMap fun m => (Value.scalar m.1).str?

/-- The findings on operations of some path items. -/
def silences (items : Members) : List Finding :=
  items.flatMap fun m => ((Value.scalar m.1).str?.map (silentOperations · m.2)).getD []

theorem method_ambiguity? {f : Finding} (h : f ∈ ambiguity? seen path) : f.method = none := by
  rw [ambiguity?] at h
  split at h
  · obtain ⟨other, -, rfl⟩ := Option.map_eq_some_iff.1 h
    rfl
  · cases h

theorem method_silentOperations {item : Value} {f : Finding} (h : f ∈ silentOperations path item) :
    f.method.isSome = true := by
  unfold silentOperations at h
  split at h
  · obtain ⟨m, -, rfl⟩ := List.mem_map.1 h
    rfl
  · cases h

/-- The findings without a method are those on templates, and those with one are on operations. -/
theorem findings_parts (h : findings seen items = .ok found) (hr : Remembers seen earlier) :
    found.filter (·.method.isNone) = ambiguities earlier (pathTexts items) ∧
      found.filter (·.method.isSome) = silences items := by
  induction items generalizing seen earlier found with
  | nil =>
    obtain rfl := Except.ok.inj h
    exact ⟨rfl, rfl⟩
  | cons m rest ih =>
    obtain ⟨k, item⟩ := m
    cases k with
    | str path =>
      rw [findings_cons_eq] at h
      obtain ⟨later, hl, rfl⟩ := map_eq_ok_iff.1 h
      obtain ⟨onTemplates, onOperations⟩ := ih hl (hr.seenAfter path)
      have own : ambiguity? seen path = ambiguity? (templates earlier) path := by
        rw [ambiguity?, ambiguity?, hr path]
      have first (f : Finding) (hf : f ∈ (ambiguity? seen path).toList) : f.method = none :=
        method_ambiguity? (Option.mem_toList.1 hf)
      have second (f : Finding) (hf : f ∈ silentOperations path item) : f.method.isSome = true :=
        method_silentOperations hf
      constructor
      · rw [List.filter_append, List.filter_append, onTemplates,
          List.filter_eq_self.2 fun f hf => by rw [first f hf]; rfl,
          List.filter_eq_nil_iff.2 fun f hf => by simp [Option.isSome_iff_ne_none.1 (second f hf)],
          List.append_nil, own]
        rfl
      · rw [List.filter_append, List.filter_append, onOperations,
          List.filter_eq_nil_iff.2 fun f hf => by rw [first f hf]; exact Bool.false_ne_true,
          List.filter_eq_self.2 second, List.nil_append]
        rfl
    | _ => cases h

/-! ## Where the findings are -/

section Things

variable {α : Type} {P : α → Prop} {R : α → Issue → Prop} {l : List α} {at? : α → Option Finding}
  {f : Finding → Issue}

/-- Issues made of what is found at different places are about these places. -/
theorem oneForEach_filterMap (distinct : l.Nodup)
    (hP : ∀ x, P x ↔ x ∈ l ∧ (at? x).isSome = true)
    (hR : ∀ x finding, at? x = some finding → R x (f finding)) :
    OneForEach P R ((l.filterMap at?).map f) := by
  refine ⟨l.filter fun x => (at? x).isSome, distinct.filter _, fun x => ?_, ?_⟩
  · rw [List.mem_filter, hP]
  · clear hP distinct
    induction l with
    | nil => exact .nil
    | cons x rest ih =>
      cases hx : at? x with
      | none => simpa [hx] using ih
      | some finding => simpa [hx] using ⟨hR x finding hx, List.forall₂_map_right_iff.1 ih⟩

end Things

/-- The path at a position is a template, and has the key of a template at an earlier one. -/
def Ambiguous (paths : List String) (i : ℕ) : Prop :=
  ∃ path, paths[i]? = some path ∧ isTemplate path = true ∧
    ∃ j < i, ∃ other, paths[j]? = some other ∧ isTemplate other = true ∧
      templateKey other = templateKey path

/-- The warning on an ambiguous path, which names the first template with its key. -/
def AmbiguityReport (o : CheckOptions) (paths : List String) (i : ℕ) (report : Issue) : Prop :=
  ∃ path first, paths[i]? = some path ∧
    (paths.filter isTemplate).find? (fun other => templateKey other == templateKey path) =
      some first ∧
    report = issue o (some .warning)
      ("Path templates " ++ first ++ " and " ++ path ++ " are ambiguous") (some path) none

/-- The finding on the path at a position. -/
def ambiguityAt? (paths : List String) (i : ℕ) : Option Finding :=
  paths[i]?.bind (ambiguity? (templates (paths.take i)))

theorem ambiguities_eq (earlier paths : List String) : ambiguities earlier paths =
    (List.range paths.length).filterMap
      fun i => ambiguityAt? (earlier ++ paths) (earlier.length + i) := by
  induction paths generalizing earlier with
  | nil => rfl
  | cons path rest ih =>
    have first : ambiguityAt? (earlier ++ path :: rest) (earlier.length + 0) =
        ambiguity? (templates earlier) path := by
      rw [ambiguityAt?, Nat.add_zero, List.getElem?_append_right le_rfl, Nat.sub_self,
        List.take_left, List.getElem?_cons_zero, Option.bind_some]
    rw [ambiguities, ih, List.length_cons, List.range_succ_eq_map, List.filterMap_cons, first,
      List.filterMap_map]
    have later (i : ℕ) : ambiguityAt? (earlier ++ [path] ++ rest) ((earlier ++ [path]).length + i) =
        ambiguityAt? (earlier ++ path :: rest) (earlier.length + i.succ) := by
      rw [List.append_assoc, List.length_append, List.singleton_append, List.length_singleton,
        Nat.add_assoc, Nat.add_comm 1 i]
    simp only [later, Function.comp_def]
    cases ambiguity? (templates earlier) path <;> simp

theorem mem_templates_take_iff {i : ℕ} {other : String} : other ∈ templates (paths.take i) ↔
    isTemplate other = true ∧ ∃ j < i, paths[j]? = some other := by
  rw [templates, List.mem_filter, List.mem_iff_getElem?, and_comm]
  simp only [List.getElem?_take, Option.ite_none_right_eq_some]

theorem isSome_firstLike_iff : (firstLike path seen).isSome = true ↔
    ∃ other ∈ seen, templateKey other = templateKey path := by
  rw [firstLike, List.find?_isSome]
  simp only [beq_iff_eq]

theorem ambiguityAt?_eq_some_iff {i : ℕ} {finding : Finding} :
    ambiguityAt? paths i = some finding ↔ ∃ path other, paths[i]? = some path ∧
      isTemplate path = true ∧ firstLike path (templates (paths.take i)) = some other ∧
      finding = ambiguous other path := by
  simp only [ambiguityAt?, ambiguity?, Option.bind_eq_some_iff, Option.ite_none_right_eq_some,
    Option.map_eq_some_iff, eq_comm (a := finding)]
  constructor
  · rintro ⟨path, at?, template, other, first, rfl⟩
    exact ⟨path, other, at?, template, first, rfl⟩
  · rintro ⟨path, other, at?, template, first, rfl⟩
    exact ⟨path, at?, template, other, first, rfl⟩

theorem isSome_ambiguityAt?_iff {i : ℕ} :
    (ambiguityAt? paths i).isSome = true ↔ Ambiguous paths i := by
  simp only [Option.isSome_iff_exists, ambiguityAt?_eq_some_iff]
  constructor
  · rintro ⟨_, path, other, at?, template, first, rfl⟩
    obtain ⟨other, earlier, same⟩ :=
      isSome_firstLike_iff.1 (Option.isSome_iff_exists.2 ⟨other, first⟩)
    obtain ⟨template', j, hj, at'⟩ := mem_templates_take_iff.1 earlier
    exact ⟨path, at?, template, j, hj, other, at', template', same⟩
  · rintro ⟨path, at?, template, j, hj, other, at', template', same⟩
    have earlier : other ∈ templates (paths.take i) :=
      mem_templates_take_iff.2 ⟨template', j, hj, at'⟩
    obtain ⟨first, hfirst⟩ :=
      Option.isSome_iff_exists.1 (isSome_firstLike_iff.2 ⟨other, earlier, same⟩)
    exact ⟨_, path, first, at?, template, hfirst, rfl⟩

/-- The first template with a key among the earlier paths is the first one of all. -/
theorem find?_templates_of_take {i : ℕ} {other : String}
    (first : firstLike path (templates (paths.take i)) = some other) :
    (paths.filter isTemplate).find? (fun q => templateKey q == templateKey path) = some other := by
  rw [firstLike, templates] at first
  conv_lhs => rw [← List.take_append_drop i paths]
  rw [List.filter_append, List.find?_append, first, Option.some_or]

/-- There is one warning for each ambiguous path. -/
theorem oneForEach_ambiguous (o : CheckOptions) (paths : List String) :
    OneForEach (Ambiguous paths) (AmbiguityReport o paths)
      ((ambiguities [] paths).map fun f => issue o (some .warning) f.message (some f.path) f.method)
    := by
  have all := ambiguities_eq [] paths
  simp only [List.nil_append, List.length_nil, Nat.zero_add] at all
  rw [all]
  refine oneForEach_filterMap List.nodup_range (fun i => ?_) fun i finding hi => ?_
  · rw [isSome_ambiguityAt?_iff, List.mem_range]
    refine (and_iff_right_of_imp ?_).symm
    rintro ⟨path, at?, -⟩
    exact (List.getElem?_eq_some_iff.1 at?).1
  · obtain ⟨path, other, at?, -, first, rfl⟩ := ambiguityAt?_eq_some_iff.1 hi
    exact ⟨path, other, at?, find?_templates_of_take first, rfl⟩

/-! ## How many templates are ambiguous -/

/-- The keys of the templates among some paths. -/
def keys (paths : List String) : Finset String :=
  ((paths.filter isTemplate).map templateKey).toFinset

theorem keys_concat (paths : List String) (path : String) : keys (paths ++ [path]) =
    if isTemplate path then insert (templateKey path) (keys paths) else keys paths := by
  rw [keys, show (paths ++ [path]).filter isTemplate = _ from templates_concat paths path]
  split
  · rw [List.map_append, List.toFinset_append, List.map_singleton, Finset.insert_eq,
      Finset.union_comm]
    rfl
  · rw [List.append_nil]
    rfl

theorem length_ambiguity? (earlier : List String) (path : String) :
    (ambiguity? (templates earlier) path).toList.length + (keys (earlier ++ [path])).card =
      (keys earlier).card + (templates [path]).length := by
  have known : (firstLike path (templates earlier)).isSome = true ↔
      templateKey path ∈ keys earlier := by
    rw [isSome_firstLike_iff, keys, List.mem_toFinset, List.mem_map]
    rfl
  have alone : templates [path] = if isTemplate path then [path] else [] := by
    rw [templates, List.filter_cons, List.filter_nil]
  rw [keys_concat, ambiguity?, alone]
  split
  · cases first : firstLike path (templates earlier) with
    | none =>
      have new : templateKey path ∉ keys earlier := by rw [← known, first]; exact Bool.false_ne_true
      rw [Finset.card_insert_of_notMem new]
      simp
    | some other =>
      have old : templateKey path ∈ keys earlier := by rw [← known, first]; rfl
      rw [Finset.insert_eq_of_mem old]
      simp [Nat.add_comm]
  · simp

/-- A template is ambiguous, or it has a new key. -/
theorem length_ambiguities (earlier paths : List String) :
    (ambiguities earlier paths).length + (keys (earlier ++ paths)).card =
      (keys earlier).card + (paths.filter isTemplate).length := by
  induction paths generalizing earlier with
  | nil => simp [ambiguities]
  | cons path rest ih =>
    have first := length_ambiguity? earlier path
    have later := ih (earlier ++ [path])
    have all : (path :: rest).filter isTemplate = templates [path] ++ rest.filter isTemplate :=
      List.filter_append [path] rest
    rw [List.append_assoc, List.singleton_append] at later
    rw [ambiguities, all, List.length_append, List.length_append]
    omega

/-! ## Operations without responses -/

/-- The finding on the operation of a method. -/
def silence? (path : String) (item : Value) (m : HttpMethod) : Option Finding :=
  (item.members?.bind (Members.get? m.name)).bind fun v => v.members?.bind fun op =>
    if (Value.ifTruthy (Members.get? "responses" op)).isNone then
      some ⟨m.token ++ " " ++ path ++ " declares no responses", path, some m.token⟩
    else none

theorem silentOperations_eq (path : String) (item : Value) :
    silentOperations path item = HttpMethod.all.filterMap (silence? path item) := by
  cases item with
  | map ms =>
    rw [silentOperations, ← List.filterMap_eq_map, List.filterMap_filter]
    refine List.filterMap_congr fun m _ => ?_
    simp only [silence?, Value.members?, Option.bind_some]
    cases hm : Members.get? m.name ms with
    | none => rfl
    | some v => cases v <;> rfl
  | _ => rfl

/-- The finding on the operation of a method on the path item at a position. -/
def silenceAt? (items : Members) (p : ℕ × HttpMethod) : Option Finding :=
  items[p.1]?.bind fun m => (Value.scalar m.1).str?.bind fun path => silence? path m.2 p.2

theorem flatMap_eq_range {α β : Type} (l : List α) (f : α → List β) :
    l.flatMap f = (List.range l.length).flatMap fun i => (l[i]?.map f).getD [] := by
  induction l with
  | nil => rfl
  | cons a rest ih =>
    rw [List.flatMap_cons, ih, List.length_cons, List.range_succ_eq_map, List.flatMap_cons,
      List.flatMap_map]
    rfl

theorem silences_eq (items : Members) : silences items =
    (List.range items.length ×ˢ HttpMethod.all).filterMap (silenceAt? items) := by
  rw [silences, flatMap_eq_range]
  show _ = ((List.range items.length).flatMap fun i => HttpMethod.all.map (Prod.mk i)).filterMap _
  rw [List.filterMap_flatMap]
  refine List.flatMap_congr fun i _ => ?_
  rw [List.filterMap_map]
  show _ = HttpMethod.all.filterMap fun m => silenceAt? items (i, m)
  cases hi : items[i]? with
  | none => simp [silenceAt?, hi]
  | some m =>
    simp only [silenceAt?, hi, Option.bind_some, Option.map_some, Option.getD_some]
    cases (Value.scalar m.1).str? with
    | none => simp
    | some path => exact silentOperations_eq path m.2

/-- The operation of a method on the path item at a position has no responses, or what counts as
none. -/
def Silent (items : Members) (p : ℕ × HttpMethod) : Prop :=
  ∃ path item op, items[p.1]? = some (.str path, .map item) ∧
    Members.get? p.2.name item = some (.map op) ∧
    ∀ v, Members.get? "responses" op = some v → v.truthy = false

/-- The warning on an operation without responses. -/
def SilenceReport (o : CheckOptions) (items : Members) (p : ℕ × HttpMethod) (report : Issue) :
    Prop :=
  ∃ path, items[p.1]?.map (·.1) = some (.str path) ∧
    report = issue o (some .warning) (p.2.token ++ " " ++ path ++ " declares no responses")
      (some path) (some p.2.token)

theorem isNone_ifTruthy_iff {x : Option Value} :
    (Value.ifTruthy x).isNone = true ↔ ∀ v, x = some v → v.truthy = false := by
  cases x with
  | none => simp [Value.ifTruthy]
  | some v => cases hv : v.truthy <;> simp [Value.ifTruthy, hv]

theorem members?_eq_some_iff {v : Value} {ms : Members} : v.members? = some ms ↔ v = .map ms := by
  cases v <;> simp [Value.members?]

theorem silence?_eq_some_iff {item : Value} {m : HttpMethod} {finding : Finding} :
    silence? path item m = some finding ↔ ∃ ms op, item = .map ms ∧
      Members.get? m.name ms = some (.map op) ∧
      (∀ v, Members.get? "responses" op = some v → v.truthy = false) ∧
      finding = ⟨m.token ++ " " ++ path ++ " declares no responses", path, some m.token⟩ := by
  simp only [silence?, Option.bind_eq_some_iff, members?_eq_some_iff, Option.ite_none_right_eq_some,
    isNone_ifTruthy_iff, Option.some.injEq, eq_comm (b := finding)]
  constructor
  · rintro ⟨_, ⟨ms, rfl, own⟩, op, rfl, silent, rfl⟩
    exact ⟨ms, op, rfl, own, silent, rfl⟩
  · rintro ⟨ms, op, rfl, own, silent, rfl⟩
    exact ⟨_, ⟨ms, rfl, own⟩, op, rfl, silent, rfl⟩

theorem str?_eq_some_iff {k : Scalar} : (Value.scalar k).str? = some path ↔ k = .str path := by
  cases k <;> simp [Value.str?]

theorem mem_all (m : HttpMethod) : m ∈ HttpMethod.all := by
  cases m <;> decide

/-- There is one warning for each operation without responses. -/
theorem oneForEach_silent (o : CheckOptions) (items : Members) :
    OneForEach (Silent items) (SilenceReport o items)
      ((silences items).map fun f => issue o (some .warning) f.message (some f.path) f.method) := by
  have found {p : ℕ × HttpMethod} {finding : Finding} (h : silenceAt? items p = some finding) :
      ∃ path item, items[p.1]? = some (.str path, item) ∧
        silence? path item p.2 = some finding := by
    obtain ⟨⟨k, item⟩, at?, h⟩ := Option.bind_eq_some_iff.1 h
    obtain ⟨path, text, h⟩ := Option.bind_eq_some_iff.1 h
    obtain rfl := str?_eq_some_iff.1 text
    exact ⟨path, item, at?, h⟩
  rw [silences_eq]
  refine oneForEach_filterMap (List.nodup_range.product (by decide)) (fun p => ?_)
    fun p finding hp => ?_
  · constructor
    · rintro ⟨path, item, op, at?, own, silent⟩
      have position : p.1 < items.length := (List.getElem?_eq_some_iff.1 at?).1
      refine ⟨List.mem_product.2 ⟨List.mem_range.2 position, mem_all p.2⟩, ?_⟩
      have here : silence? path (.map item) p.2 = some _ :=
        silence?_eq_some_iff.2 ⟨item, op, rfl, own, silent, rfl⟩
      rw [silenceAt?, at?, Option.bind_some]
      exact Option.isSome_iff_exists.2 ⟨_, here⟩
    · rintro ⟨-, h⟩
      obtain ⟨finding, h⟩ := Option.isSome_iff_exists.1 h
      obtain ⟨path, item, at?, h⟩ := found h
      obtain ⟨ms, op, rfl, own, silent, -⟩ := silence?_eq_some_iff.1 h
      exact ⟨path, ms, op, at?, own, silent⟩
  · obtain ⟨path, item, at?, h⟩ := found hp
    obtain ⟨ms, op, rfl, -, -, rfl⟩ := silence?_eq_some_iff.1 h
    exact ⟨path, by rw [at?]; rfl, rfl⟩

/-! ## Checks -/

/-- The issues on a document: its violations, and then what was found on its paths. -/
theorem checkStructure_parts {v : Validation} (shown : o.includeWarnings = true)
    (unranked : o.override? .specStructure = none) (h : checkStructure o doc = .ok v) :
    ∃ found, findings [] (pathItems doc) = .ok found ∧
      (v.valid = true ↔ violations doc = []) ∧
      v.errors = (violations doc).map (fun r => issue o none (r.complaint doc) none none) ∧
      v.warnings =
        found.map fun f => issue o (some .warning) f.message (some f.path) f.method := by
  obtain ⟨is, his, h⟩ := bind_eq_ok_iff.1 h
  obtain ⟨version, -, h⟩ := bind_eq_ok_iff.1 h
  obtain rfl := Except.ok.inj h
  obtain ⟨found, hf, his⟩ := bind_eq_ok_iff.1 his
  obtain rfl := Except.ok.inj his
  have errors (r : Requirement) : (issue o none (r.complaint doc) none none).severity = .error := by
    simp [issue, CheckOptions.severityOf, unranked, IssueKind.defaultSeverity]
  have warnings (f : Finding) :
      (issue o (some .warning) f.message (some f.path) f.method).severity = .warning := by
    simp [issue, CheckOptions.severityOf, unranked]
  refine ⟨found, hf, ?_, ?_, ?_⟩
  · simp [topProblems_eq, errors, warnings, List.eq_nil_iff_forall_not_mem]
  · simp [CheckOptions.returned, shown, topProblems_eq, errors, warnings, List.filter_map,
      Function.comp_def]
  · simp [CheckOptions.returned, shown, topProblems_eq, errors, warnings, List.filter_map,
      Function.comp_def]

/-- A document whose paths have texts for keys is checked exactly if its version can be written.  It
is valid exactly if it has the structure that is asked for, and has one error for each requirement
that it violates.  The warnings without a method are one for each template with the key of an
earlier one, so as many as there are templates more than keys, and the others are one for each
operation without responses. -/
theorem checkStructure_reports (o : CheckOptions) (doc : Value) (shown : o.includeWarnings = true)
    (unranked : o.override? .specStructure = none)
    (texts : ∀ item ∈ pathItems doc, ∃ path, item.1 = .str path) :
    let items := pathItems doc
    let paths := pathTexts items
    ((∃ v, checkStructure o doc = .ok v) ↔
      ∀ version, version? doc = some version → version.writable = true) ∧
    ∀ v, checkStructure o doc = .ok v →
      (v.valid = true ↔ WellStructured doc) ∧
      OneForEach (Violates doc)
        (fun r report => report = issue o none (r.complaint doc) none none) v.errors ∧
      OneForEach (Ambiguous paths) (AmbiguityReport o paths)
        (v.warnings.filter (·.method.isNone)) ∧
      (v.warnings.filter (·.method.isNone)).length + (keys paths).card =
        (paths.filter isTemplate).length ∧
      OneForEach (Silent items) (SilenceReport o items)
        (v.warnings.filter (·.method.isSome)) := by
  intro items paths
  refine ⟨(checkStructure_returns_iff o doc).trans (and_iff_right texts), fun v h => ?_⟩
  obtain ⟨found, hf, valid, errors, warnings⟩ := checkStructure_parts shown unranked h
  have start : Remembers [] [] := fun _ => rfl
  obtain ⟨onTemplates, onOperations⟩ := findings_parts hf start
  have parts (p : Option String → Bool) : v.warnings.filter (fun i => p i.method) =
      (found.filter fun f => p f.method).map
        fun f => issue o (some .warning) f.message (some f.path) f.method := by
    rw [warnings, List.filter_map]
    rfl
  have counted := length_ambiguities [] paths
  refine ⟨valid.trans violations_eq_nil_iff, ?_, ?_, ?_, ?_⟩
  · rw [errors]
    refine oneForEach_map id ?_ (fun r => ?_) fun _ _ => rfl
    · rw [List.map_id]
      exact nodup_violations doc
    · rw [List.map_id, mem_violations_iff]
  · rw [parts Option.isNone, onTemplates]
    exact oneForEach_ambiguous o paths
  · rw [parts Option.isNone, onTemplates, List.length_map]
    simpa [keys] using counted
  · rw [parts Option.isSome, onOperations]
    exact oneForEach_silent o items

/-- A document with three templates that match the same paths, and without a description. -/
def overlapping : Value := .ofNamed [
  ("swagger", .str "2.0"),
  ("paths", .ofNamed [
    ("/u/\x7bid\x7d", .ofNamed [("get", .ofNamed []), ("post", .str "create")]),
    ("/u/1", .ofNamed [("trace", .ofNamed [("responses", .list [])])]),
    ("/u/:name", .null),
    ("/u/<int:n>/", .ofNamed [("put", .ofNamed [("responses", .str "all")])])])]

theorem checkStructure_reports_overlapping :
    (CheckOptions.default.includeWarnings = true ∧
      CheckOptions.default.override? .specStructure = none ∧
      ∀ item ∈ pathItems overlapping, ∃ path, item.1 = .str path) ∧
    ∃ v, checkStructure .default overlapping = .ok v ∧
      (v.valid = true ↔ WellStructured overlapping) ∧
      (v.warnings.filter (·.method.isNone)).length +
        (keys (pathTexts (pathItems overlapping))).card = 3 ∧
      v.errors.map (·.message) = ["Missing required field 'info'"] ∧
      v.warnings.map (·.message) =
        ["GET /u/\x7bid\x7d declares no responses", "TRACE /u/1 declares no responses",
          "Path templates /u/\x7bid\x7d and /u/:name are ambiguous",
          "Path templates /u/\x7bid\x7d and /u/<int:n>/ are ambiguous"] := by
  have texts : ∀ item ∈ pathItems overlapping, ∃ path, item.1 = .str path := by
    have all : (pathItems overlapping).all (fun m => (Value.scalar m.1).str?.isSome) = true := by
      decide +kernel
    intro item hi
    obtain ⟨path, text⟩ := Option.isSome_iff_exists.1 (List.all_eq_true.1 all item hi)
    exact ⟨path, str?_eq_some_iff.1 text⟩
  obtain ⟨-, reports⟩ := checkStructure_reports .default overlapping rfl rfl texts
  have messages : (checkStructure .default overlapping).toOption.map
      (fun v => (v.errors.map (·.message), v.warnings.map (·.message))) = some
      (["Missing required field 'info'"],
        ["GET /u/\x7bid\x7d declares no responses", "TRACE /u/1 declares no responses",
          "Path templates /u/\x7bid\x7d and /u/:name are ambiguous",
          "Path templates /u/\x7bid\x7d and /u/<int:n>/ are ambiguous"]) := by
    decide +kernel
  cases hv : checkStructure .default overlapping with
  | error =>
    rw [hv] at messages
    cases messages
  | ok v =>
    rw [hv] at messages
    obtain ⟨errors, warnings⟩ := Prod.mk.inj (Option.some.inj messages)
    obtain ⟨valid, -, -, count, -⟩ := reports v hv
    exact ⟨⟨rfl, rfl, texts⟩, v, rfl, valid, count, errors, warnings⟩

/-- A document whose version is an integer of too many digits. -/
def longVersion : Value := .ofNamed [("openapi", .int (Int.ofNat (Nat.pow 10 Text.maxDigits))),
  ("info", .ofNamed []), ("paths", .ofNamed [])]

/-- It has the structure that is asked for, but it is not checked. -/
theorem not_checkStructure_longVersion :
    WellStructured longVersion ∧ pathItems longVersion = [] ∧
      ¬ ∃ v, checkStructure .default longVersion = .ok v := by
  have fails : (checkStructure .default longVersion).isOk = false := by decide +kernel
  refine ⟨⟨_, rfl, .inl rfl, rfl, _, rfl⟩, rfl, ?_⟩
  rintro ⟨v, hv⟩
  rw [hv] at fails
  cases fails

end ApiAccord.Structure
