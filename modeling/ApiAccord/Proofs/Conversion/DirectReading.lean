import ApiAccord.Proofs.Conversion.Commuting
import ApiAccord.Proofs.Conversion.Declarations
import ApiAccord.Proofs.Conversion.Splitting
import ApiAccord.Proofs.Library

/-!
# Swagger documents are read as they are declared

A Swagger document is converted first and read after.  For a document without references, both
together give what a direct reading of its declarations gives: an operation for each declaration,
with the parameters of the declaration, and its body (`OperationRead`).  The conversion keeps what
stands in the place of a body of the newer family, so that it is read as a body where an operation
declares none (`strayPaths_body_read`).

`operation_read` is about one operation, `ofPaths_read` the induction over the paths, and
`Library.specOf_declarations` says it of loading.
-/

namespace ApiAccord.Swagger

open OperationReading

variable {names : List Scalar} {doc ms op op' item item' p q conv : Members} {ps qs : List Members}

/-! ## Parameters -/

/-- A parameter is read as it is declared. -/
structure ParameterRead (p : Members) (r : Parameter) : Prop where
  name : textOf? p "name" = some r.name
  place : textOf? p "in" = some r.place.name
  type : r.type = textOf? p "type"
  required : r.required = (saysRequired p || r.place == .path)

/-- A place outside of the body is one that the reader knows. -/
theorem WellDeclared.exists_place (wd : WellDeclared p) (hb : inBody p = false) :
    ∃ place : ParameterPlace, p.get? "in" = some (.str place.name) ∧
      ParameterPlace.ofName? place.name = some place := by
  obtain ⟨text, known, hp⟩ := wd.place
  simp only [List.mem_cons, List.not_mem_nil, or_false] at known
  rcases known with rfl | rfl | rfl | rfl | rfl
  · exact ⟨.query, hp, by decide⟩
  · exact ⟨.header, hp, by decide⟩
  · exact ⟨.path, hp, by decide⟩
  · exact ⟨.formData, hp, by decide⟩
  · rw [inBody, getOrNull, hp] at hb
    cases hb

theorem get?_type_typeSchema (p : Members) :
    (typeSchema p).get? "type" = (p.get? "type").filter fun v => !v.isNull := by
  simp only [typeSchema, typeFields, List.map_cons, List.map_nil, get?_present_cons,
    filter_get?_eq_getOrNull]
  simp [present, Members.get?]

/-- The type of a converted parameter is the declared one. -/
theorem schemaType?_eq (type : ∀ v, p.get? "type" = some v → v.isNull = true ∨ ∃ t, v = .str t)
    (hs : q.get? "schema" = Members.get? "schema" (unlessEmpty "schema" (typeSchema p))) :
    schemaType? ((q.get? "schema").getD .null) = textOf? p "type" := by
  have said := get?_type_typeSchema p
  have read : schemaType? ((q.get? "schema").getD .null) = schemaType? (.map (typeSchema p)) := by
    rw [hs]
    by_cases empty : typeSchema p = []
    · rw [empty]
      rfl
    · rw [get?_unlessEmpty empty]
      rfl
  rw [read, textOf?]
  cases ht : p.get? "type" with
  | none =>
    rw [ht] at said
    simp [schemaType?, Value.members?, said]
  | some v =>
    rw [ht] at said
    rcases type v ht with hv | ⟨t, rfl⟩
    · obtain rfl := Value.isNull_iff.1 hv
      simp [schemaType?, Value.members?, said, Option.filter, Value.isNull, Value.str?]
    · simp [schemaType?, Value.members?, said, Option.filter, Value.isNull, Value.str?,
        Value.display, Scalar.display]

/-- What identifies a parameter that is declared well. -/
def keyOf (p : Members) : ParameterKey :=
  (.str ((textOf? p "name").getD ""), .str ((textOf? p "in").getD ""))

/-- What is read from a parameter with a name, in a known place. -/
theorem parameter?_spec {name : String} {place : ParameterPlace} (noRef : q.has "$ref" = false)
    (hname : q.get? "name" = some (.str name)) (hplace : q.get? "in" = some (.str place.name))
    (known : ParameterPlace.ofName? place.name = some place) :
    ∃ c, parameter? q = some c ∧ ∀ r, c = .ok r → r.name = name ∧ r.place = place ∧
      r.required = (((q.get? "required").map Value.truthy).getD false || place == .path) ∧
      r.type = schemaType? ((q.get? "schema").getD .null) := by
  have read : parameter? q = some ((Parameter.mk name place
      (((q.get? "required").map Value.truthy).getD false || place == .path) ·
        (schemaType? ((q.get? "schema").getD .null)) ·) <$>
      Record.field q ["description"] none (Field.orNull Field.text) <*>
      (Field.orNull Field.namedMapping (mappingOrNull (some ((q.get? "schema").getD .null)))).at_
        (.field "schema")) := by
    simp only [parameter?, noRef, hname, hplace, Option.getD_some, Value.str?, Bool.false_eq_true,
      if_false, Option.bind_eq_bind, Option.bind_some, known]
    rfl
  refine ⟨_, read, fun r hr => ?_⟩
  simp only [seq_eq_ok_iff, map_check_eq_ok_iff] at hr
  obtain ⟨_, _, ⟨_, -, rfl⟩, -, rfl⟩ := hr
  exact ⟨rfl, rfl, rfl, rfl⟩

/-- A converted parameter has the key of the declared one, and is read as that is declared. -/
theorem parameter_read (wd : WellDeclared p) (hb : inBody p = false) (h : parameter p = .ok q) :
    parameterKey q = .ok (keyOf p) ∧
      ∃ c, parameter? q = some c ∧ ∀ r, c = .ok r → ParameterRead p r := by
  obtain ⟨name, hname⟩ := wd.name
  obtain ⟨place, hplace, known⟩ := wd.exists_place hb
  have member {name : String} (hn : Text.startsWith "x-" name = false) :=
    get?_parameter wd.noRef h hn
  have name' : q.get? "name" = some (.str name) := by
    rw [member (by decide), hname]
    rfl
  have place' : q.get? "in" = some (.str place.name) := by
    rw [member (by decide), hplace]
    rfl
  have noRef : q.has "$ref" = false := by
    rw [Members.has, member (by decide)]
    exact congrArg Option.isSome (get?_unlessEmpty_of_ne (by decide))
  have required : q.get? "required" =
      some (.bool (saysRequired p || (getOrNull p "in").isText "path")) := member (by decide)
  have type := schemaType?_eq wd.type (member (by decide))
  constructor
  · rw [parameterKey, keyPart, keyPart, name', place', keyOf, textOf?, textOf?, hname, hplace]
    rfl
  · obtain ⟨c, hc, read⟩ := parameter?_spec noRef name' place' known
    refine ⟨c, hc, fun r hr => ?_⟩
    obtain ⟨rfl, rfl, hrequired, htype⟩ := read r hr
    refine ⟨by rw [textOf?, hname]; rfl, by rw [textOf?, hplace]; rfl, htype.trans type, ?_⟩
    rw [hrequired, required]
    have said : (((p.get? "in").getD (.str "query")).str?.bind ParameterPlace.ofName?) =
        some r.place := by
      rw [hplace]
      exact known
    have declared := required_eq said
    rw [← saysRequired_eq] at declared
    exact declared

/-! ## Lists of parameters -/

/-- The parameters are outside of the body and declared well, and are converted. -/
def Converts (p q : Members) : Prop :=
  WellDeclared p ∧ inBody p = false ∧ parameter p = .ok q

theorem mapM_key (h : List.Forall₂ Converts ps qs) : qs.mapM parameterKey = .ok (ps.map keyOf) := by
  induction h with
  | nil => rfl
  | cons hpq _ ih =>
    rw [List.mapM_cons, (parameter_read hpq.1 hpq.2.1 hpq.2.2).1, ih]
    rfl

theorem same_keyOf (hp : WellDeclared p) (hq : WellDeclared q) :
    ParameterKey.same (keyOf p) (keyOf q) = sameParameter p q := by
  obtain ⟨n, hn⟩ := hp.name
  obtain ⟨m, hm⟩ := hq.name
  obtain ⟨i, -, hi⟩ := hp.place
  obtain ⟨j, -, hj⟩ := hq.place
  simp [ParameterKey.same, keyOf, sameParameter, textOf?, hn, hm, hi, hj, Value.str?, Scalar.same]

/-- The parameters of a path whose keys none of the operation's parameters has. -/
theorem kept_converts (h : List.Forall₂ Converts ps qs) (own : List Members)
    (declared : ∀ q ∈ own, WellDeclared q) :
    List.Forall₂ Converts (ps.filter fun p => !own.any (sameParameter p))
      (((qs.zip (ps.map keyOf)).filter fun p =>
        !(own.map keyOf).any (ParameterKey.same p.2)).map (·.1)) := by
  induction h with
  | nil => exact .nil
  | @cons p q ps qs hpq _ ih =>
    have same : (own.map keyOf).any (ParameterKey.same (keyOf p)) = own.any (sameParameter p) := by
      rw [List.any_map, Bool.eq_iff_iff, List.any_eq_true, List.any_eq_true]
      refine exists_congr fun q => and_congr_right fun hq => ?_
      rw [Function.comp_apply, same_keyOf hpq.1 (declared q hq)]
    rw [List.map_cons, List.zip_cons_cons, List.filter_cons, List.filter_cons, same]
    split
    · exact .cons hpq ih
    · exact ih

theorem forall₂_outside (wd : ∀ p ∈ ps, WellDeclared p)
    (h : List.Forall₂ (fun p q => parameter p = .ok q) (outside ps) qs) :
    List.Forall₂ Converts (outside ps) qs := by
  refine forall₂_imp_of_mem_left h fun p hp q hq => ?_
  obtain ⟨hm, hb⟩ := List.mem_filter.1 hp
  exact ⟨wd p hm, by simpa using hb, hq⟩

/-- The converted parameters of a path and of an operation are merged as the declared ones are. -/
theorem mergeParameters_converts {merged shared own : List Members}
    (hs : List.Forall₂ Converts shared ps) (ho : List.Forall₂ Converts own qs)
    (h : mergeParameters (.list (ps.map .map)) (.list (qs.map .map)) = .ok merged) :
    List.Forall₂ Converts (shared.filter (fun p => !own.any (sameParameter p)) ++ own) merged := by
  have declared : ∀ q ∈ own, WellDeclared q := by
    intro q hq
    obtain ⟨_, -, hc⟩ := exists_of_forall₂_of_mem_left ho hq
    exact hc.1
  have merge : mergeParameters (.list (ps.map .map)) (.list (qs.map .map)) =
      .ok (((ps.zip (shared.map keyOf)).filter fun p =>
        !(own.map keyOf).any (ParameterKey.same p.2)).map (·.1) ++ qs) := by
    simp only [mergeParameters, Value.items, mappings_map, bind, Except.bind, mapM_key hs,
      mapM_key ho]
    rfl
  obtain rfl := Except.ok.inj (merge.symm.trans h)
  exact List.rel_append (kept_converts hs own declared) ho

/-- Converted parameters are read as they are declared. -/
theorem parameters_read {rs : List Parameter} (hc : List.Forall₂ Converts ps qs)
    (h : parameters qs = .ok rs) : List.Forall₂ ParameterRead ps rs := by
  unfold parameters at h
  induction hc generalizing rs with
  | nil =>
    obtain rfl := Except.ok.inj h
    exact .nil
  | @cons p q ps qs hpq _ ih =>
    obtain ⟨-, c, hc, read⟩ := parameter_read hpq.1 hpq.2.1 hpq.2.2
    rw [List.filterMap_cons_some hc, List.mapM_cons] at h
    obtain ⟨r, hr, h⟩ := bind_eq_ok_iff.1 h
    obtain ⟨rest, hrest, h⟩ := bind_eq_ok_iff.1 h
    obtain rfl := Except.ok.inj h
    cases c with
    | ok r' =>
      obtain rfl := Except.ok.inj hr
      exact .cons (read r' rfl) (ih hrest)
    | faults => cases hr

/-! ## Bodies -/

/-- The schema that a body declares: the empty one if it says none, and null if it is no mapping. -/
def bodySchema (p : Members) : Value := mappingOrNull (some ((p.get? "schema").getD (.map [])))

/-- A body is read as it is declared. -/
structure BodyRead (p : Members) (b : RequestBody) : Prop where
  required : b.required = saysRequired p
  schema : Field.orNull Field.namedMapping (bodySchema p) = .ok b.schema

/-- The content of a converted body. -/
theorem sectionOf_body (p : Members) : (sectionOf (body p) "content").members =
    .ok [named "application/json" (.ofNamed [("schema", (p.get? "schema").getD (.map []))])] := by
  have content : (body p).get? "content" = some (.ofNamed [("application/json",
      .ofNamed [("schema", (p.get? "schema").getD (.map []))])]) := by
    simp [body, Swagger.content, get?_present_cons, Value.isNull, Value.ofNamed]
  rw [sectionOf, content]
  rfl

theorem firstSchema_body (v : Value) :
    firstSchema [named "application/json" (.ofNamed [("schema", v)])] = mappingOrNull (some v) := by
  cases v <;> rfl

/-- A converted body is read as it is declared. -/
theorem requestBody_body {b : Option RequestBody} (h : requestBody (some (.map (body p))) = .ok b) :
    ∃ r, b = some r ∧ BodyRead p r := by
  have member : (body p).get? "required" = some (.bool (saysRequired p)) := by
    simp [body, get?_present_cons, Value.isNull]
  have required : Record.field (body p) ["required"] false Field.truth = .ok (saysRequired p) := by
    simp [Record.field, Record.find?, member, Field.truth, Checked.at_]
  unfold requestBody at h
  simp only [sectionOf_body, Failure.liftShape] at h
  obtain ⟨r, hr, rfl⟩ := map_eq_ok_iff.1 h
  rw [required, contentSchema, firstSchema_body] at hr
  simp only [liftRecord_eq_ok_iff, seq_eq_ok_iff, map_check_eq_ok_iff] at hr
  obtain ⟨_, schema, ⟨_, _, ⟨_, _, ⟨_, said, rfl⟩, -, rfl⟩, -, rfl⟩, hs, rfl⟩ := hr
  cases said
  exact ⟨_, rfl, rfl, at_eq_ok_iff.1 hs⟩

/-- Without a body, only a mapping is read as one. -/
theorem isSome_requestBody {v : Option Value} {b : Option RequestBody}
    (h : requestBody v = .ok b) : b.isSome = true ↔ ∃ ms, v = some (.map ms) := by
  unfold requestBody at h
  split at h
  · obtain ⟨content, -, h⟩ := bind_eq_ok_iff.1 h
    obtain ⟨r, -, rfl⟩ := map_eq_ok_iff.1 h
    simp
  · next hv =>
    obtain rfl := Except.ok.inj h
    simpa using hv

/-! ## Operations -/

/-- An operation is read as it is declared.  Where no body is declared, a mapping in its place in the
newer family is read as one. -/
structure OperationRead (d : Declaration) (op : Operation) : Prop where
  path : Field.text (.scalar d.path) = .ok op.path
  method : op.method = d.method
  parameters : List.Forall₂ ParameterRead d.parameters op.parameters
  body : ∀ p, d.body? = some p → ∃ b, op.requestBody = some b ∧ BodyRead p b
  noBody : d.body? = none →
    (op.requestBody.isSome = true ↔ ∃ ms, d.operation.get? "requestBody" = some (.map ms))

/-- What an operation is read from: its path, its method, its parameters and its body. -/
theorem operation_inv {path : Scalar} {sharedList global : Value} {m : HttpMethod} {o : Operation}
    (h : OperationReading.operation path sharedList global m op = .ok o) :
    ∃ merged, mergeParameters sharedList ((op.get? "parameters").getD (.list [])) = .ok merged ∧
      OperationReading.parameters merged = .ok o.parameters ∧
      requestBody (op.get? "requestBody") = .ok o.requestBody ∧
      Field.text (.scalar path) = .ok o.path ∧ o.method = m := by
  unfold OperationReading.operation at h
  obtain ⟨merged, hm, h⟩ := bind_eq_ok_iff.1 h
  obtain ⟨ps, hps, h⟩ := bind_eq_ok_iff.1 h
  obtain ⟨b, hb, h⟩ := bind_eq_ok_iff.1 h
  obtain ⟨_, -, h⟩ := bind_eq_ok_iff.1 h
  obtain ⟨rs, -, h⟩ := bind_eq_ok_iff.1 h
  simp only [liftRecord_eq_ok_iff, seq_eq_ok_iff, map_check_eq_ok_iff] at h
  obtain ⟨_, _, ⟨_, _, ⟨_, _, ⟨_, _, ⟨_, _, ⟨_, text, rfl⟩, -, rfl⟩, -, rfl⟩, -, rfl⟩, -, rfl⟩, -,
    rfl⟩ := h
  exact ⟨merged, liftShape_eq_ok_iff.1 hm, hps, hb, at_eq_ok_iff.1 text, rfl⟩

/-- A converted operation, on a converted path item, is read as the operation is declared. -/
theorem operation_read {path : Scalar} {global : Value} {m : HttpMethod} {o : Operation}
    (shared : ∀ p ∈ pathParameters item, WellDeclared p)
    (own : ∀ p ∈ ownParameters op, WellDeclared p)
    (hps : List.Forall₂ (fun p q => parameter p = .ok q) (outside (pathParameters item)) ps)
    (hop : operation names (((pathParameters item).find? inBody).map body) op = .ok op')
    (h : OperationReading.operation path (.list (ps.map .map)) global m op' = .ok o) :
    OperationRead ⟨path, m, item, op⟩ o := by
  obtain ⟨qs, outsideOwn, listed, inPlace⟩ := operation_spec hop fun p hp => (own p hp).noRef
  obtain ⟨merged, hm, hmerged, hbody, text, method⟩ := operation_inv h
  rw [listed] at hm
  have converted :=
    mergeParameters_converts (forall₂_outside shared hps) (forall₂_outside own outsideOwn) hm
  rw [← Option.map_or] at inPlace
  refine ⟨text, method, parameters_read converted hmerged, fun p hp => ?_, fun none => ?_⟩
  · rw [inPlace, show ((ownParameters op).find? inBody).or _ = some p from hp] at hbody
    exact requestBody_body hbody
  · rw [inPlace, show ((ownParameters op).find? inBody).or _ = Option.none from none] at hbody
    exact isSome_requestBody hbody

/-! ## Path items and paths -/

/-- A path item whose operations are mappings and whose parameters are declared well. -/
structure WellFormedItem (item : Members) : Prop where
  operations : ∀ m ∈ item, isOneOf methods m.1 = true → m.2.isMap = true
  shared : ∀ p ∈ pathParameters item, WellDeclared p
  own : ∀ m op, operationOf? item m = some op → ∀ p ∈ ownParameters op, WellDeclared p

/-- The operations that are found on a converted path item are those that were declared. -/
theorem declarationsOfItem_rel {R : Members → Members → Prop} (path : Scalar)
    (found : ∀ m, Option.Rel R (operationOf? item m)
      ((item'.get? m.name).bind Value.members?)) :
    List.Forall₂ (fun d x => ∃ op, operationOf? item x.1 = some op ∧ d = ⟨path, x.1, item, op⟩ ∧
        R op x.2)
      (declarationsOfItem path item)
      (HttpMethod.all.filterMap fun m => (item'.get? m.name).bind fun v => do
        return (m, ← v.members?)) := by
  refine filterMap_rel _ fun m => ?_
  have read : ((item'.get? m.name).bind fun v => do return (m, ← v.members?)) =
      ((item'.get? m.name).bind Value.members?).map (m, ·) := by
    cases item'.get? m.name with
    | none => rfl
    | some v => cases v <;> rfl
  have ofMethod := found m
  rw [read]
  generalize hx : operationOf? item m = x, (item'.get? m.name).bind Value.members? = y
    at ofMethod
  cases ofMethod with
  | none => exact .none
  | some hr => exact .some ⟨_, hx, rfl, hr⟩

/-- The operations of a converted path item are read as they are declared. -/
theorem ofPathItem_read {path : Scalar} {global : Value} {os : List Operation}
    (wf : WellFormedItem item) (hitem : pathItem names item = .ok item')
    (h : ofPathItem global path item' = .ok os) :
    List.Forall₂ OperationRead (declarationsOfItem path item) os := by
  obtain ⟨ps, hps, listed, found⟩ :=
    pathItem_spec hitem (fun p hp => (wf.shared p hp).noRef) wf.operations
  rw [ofPathItem, listed] at h
  refine forall₂_trans (declarationsOfItem_rel path found) (forall₂_of_mapM h) ?_
  rintro _ ⟨m, op'⟩ o ⟨op, hm, rfl, hop⟩ ho
  exact operation_read wf.shared (wf.own m op hm) hps hop ho

/-- The operations of converted paths are read as they are declared. -/
theorem ofPaths_read {paths out : Members} {global : Value} {os : List Operation}
    (wf : ∀ path item, (path, .map item) ∈ paths → WellFormedItem item)
    (hpaths : collect (path names) paths = .ok out) (h : ofPaths global out = .ok os) :
    List.Forall₂ OperationRead (declarationsOfPaths paths) os := by
  induction paths generalizing out os with
  | nil =>
    obtain rfl := Except.ok.inj hpaths
    obtain rfl := Except.ok.inj h
    exact .nil
  | cons m rest ih =>
    obtain ⟨k, v⟩ := m
    obtain ⟨x, xs, hx, hxs, rfl⟩ := collect_cons_eq_ok_iff.1 hpaths
    have later : ∀ path item, (path, .map item) ∈ rest → WellFormedItem item :=
      fun path item hi => wf path item (List.mem_cons_of_mem _ hi)
    cases v with
    | map item =>
      obtain ⟨item', hitem, hx⟩ := bind_eq_ok_iff.1 hx
      obtain rfl := Except.ok.inj hx
      obtain ⟨first, hf, h⟩ := bind_eq_ok_iff.1 h
      obtain ⟨others, ho, h⟩ := bind_eq_ok_iff.1 h
      obtain rfl := Except.ok.inj h
      exact List.rel_append (ofPathItem_read (wf k item List.mem_cons_self) hitem hf)
        (ih later hxs ho)
    | _ =>
      obtain rfl := Except.ok.inj hx
      exact ih later hxs h

/-! ## Documents -/

/-- A Swagger document without references whose path items are well formed. -/
structure WellFormed (doc : Members) : Prop where
  format : ∃ version, Document.detectFormat (.map doc) = .ok (.swagger, version)
  plain : plain (.map doc) = true
  items : ∀ path item, (path, .map item) ∈ pathsOf doc → WellFormedItem item

theorem sectionMembers_paths (h : sectionMembers doc "paths" = .ok ms) : ms = pathsOf doc := by
  unfold sectionMembers section? at h
  unfold pathsOf
  cases hg : doc.get? "paths" with
  | none =>
    rw [hg] at h
    exact (Except.ok.inj h).symm
  | some v =>
    rw [hg, Value.ifTruthy] at h
    by_cases full : v.truthy = true
    · rw [if_pos full] at h
      cases v with
      | map paths => exact (Except.ok.inj h).symm
      | _ => cases h
    · rw [if_neg full] at h
      cases v with
      | map paths =>
        cases paths with
        | nil => exact (Except.ok.inj h).symm
        | cons => exact absurd rfl full
      | _ => exact (Except.ok.inj h).symm

/-- Where the paths of a converted document are. -/
theorem paths_of_assemble {version : String} (h : assemble version doc = .ok conv) :
    ∃ names out, collect (path names) (pathsOf doc) = .ok out ∧
      conv.get? "paths" = some (.map out) := by
  unfold assemble at h
  obtain ⟨served, -, h⟩ := bind_eq_ok_iff.1 h
  obtain ⟨shared, -, h⟩ := bind_eq_ok_iff.1 h
  obtain ⟨paths, hp, h⟩ := bind_eq_ok_iff.1 h
  obtain ⟨out, hout, h⟩ := bind_eq_ok_iff.1 h
  obtain ⟨comps, -, h⟩ := bind_eq_ok_iff.1 h
  obtain rfl := Except.ok.inj h
  obtain rfl := sectionMembers_paths hp
  refine ⟨_, out, hout, ?_⟩
  have served : Members.get? "paths" (if served.isEmpty then [] else
      [named "servers" (.list served)]) = none := by
    split <;> rfl
  simp only [get?_append, served]
  rfl

/-- The operations of a converted document are read as they are declared. -/
theorem operations_read {version : String} {os : List Operation} (wf : WellFormed doc)
    (hc : assemble version doc = .ok conv) (h : SpecReading.operations conv = .ok os) :
    List.Forall₂ OperationRead (declarations doc) os := by
  obtain ⟨names, out, hout, hp⟩ := paths_of_assemble hc
  obtain ⟨paths, hpaths, h⟩ := bind_eq_ok_iff.1 h
  have found : (sectionOf conv "paths").members = .ok out := by
    rw [sectionOf, hp]
    cases out <;> rfl
  rw [found] at hpaths
  obtain rfl := Except.ok.inj hpaths
  exact ofPaths_read wf.items hout h

end ApiAccord.Swagger

namespace ApiAccord

open Swagger

variable {ws : Workspace} {o : LoadOptions} {base : Option String} {doc : Members} {spec : Spec}

theorem Reference.resolveNoting_of_refTexts_eq_nil {options : ResolveOptions} {shelf : Shelf}
    {v : Value} (h : refTexts v = []) : resolveNoting options shelf base v = pure (v, []) := by
  rw [resolveNoting, resolve_of_refTexts_eq_nil h]
  rfl

/-- A document without references is read as it is converted. -/
theorem Library.specOf_of_plain {version : String}
    (format : Document.detectFormat (.map doc) = .ok (.swagger, version))
    (plain : plain (.map doc) = true) (h : (specOf ws o base (.map doc)).outcome = .ok spec) :
    ∃ full conv, assemble full doc = .ok conv ∧
      SpecReading.operations conv = .ok spec.operations := by
  have still : moveRefsOfMembers doc = doc := Value.map.inj (moveRefs_of_plain plain)
  rw [specOf, Spec.ofAnyDocument, Noted.outcome_ofExcept_bind, format] at h
  obtain ⟨modern, hm, h⟩ := bind_eq_ok_iff.1 ((Noted.outcome_ofExcept_bind _ _).symm.trans h)
  obtain ⟨conv, hc, rfl⟩ := map_eq_ok_iff.1 hm
  obtain ⟨-, -, assembled⟩ := convert_eq_ok_iff.1 hc
  rw [still] at assembled
  dsimp only at h
  rw [Reference.resolveNoting_of_refTexts_eq_nil (refTexts_assemble plain assembled)] at h
  -- Whether references are resolved or not, the document stays as it is.
  have read : Spec.ofDocument .swagger version (.map conv) (.map conv) base = .ok spec := by
    cases dereference : o.dereference <;> rw [dereference] at h <;> exact h
  exact ⟨_, conv, assembled, Spec.operations_of_ofDocument read⟩

/-- The operations of a Swagger document without references are read as they are declared. -/
theorem Library.specOf_declarations (wf : WellFormed doc)
    (h : (specOf ws o base (.map doc)).outcome = .ok spec) :
    List.Forall₂ OperationRead (declarations doc) spec.operations := by
  obtain ⟨version, format⟩ := wf.format
  obtain ⟨full, conv, assembled, read⟩ := specOf_of_plain format wf.plain h
  exact operations_read wf assembled read

/-! ## Documents with bodies -/

namespace Swagger

/-- A parameter with a type. -/
def typed (name place type : String) : Members :=
  [named "name" (.str name), named "in" (.str place), named "type" (.str type)]

theorem wellDeclared_typed {name place type : String}
    (known : place ∈ ["query", "header", "path", "formData", "body"]) :
    WellDeclared (typed name place type) where
  noRef := rfl
  name := ⟨name, rfl⟩
  place := ⟨place, known, rfl⟩
  type := fun _ h => .inr ⟨type, (Option.some.inj h).symm⟩

/-- A parameter that is put in the place of one of the path. -/
def tightLimit : Members := [named "parameters" (.list [.map (typed "limit" "query" "integer")])]

/-- A path with a body, and an operation that has it. -/
def petItem : Members :=
  [named "parameters" (.list [.map (typed "id" "path" "string"),
      .map (typed "limit" "query" "string"), .map (typed "pet" "body" "object")]),
    named "post" (.map tightLimit)]

def petPaths : Members :=
  [named "swagger" (.str "2.0"), named "paths" (.ofNamed [("/pets", .map petItem)])]

/-- A workspace with nothing in it. -/
def bareWorkspace : Workspace where
  files := ⟨[], []⟩
  here := ⟨"/", []⟩
  home := ⟨"/", []⟩
  pages := []
  environment := []
  system := "Linux"
  input := ""
  clock := 0
  stores := []

theorem operationOf?_petItem {m : HttpMethod} (h : operationOf? petItem m = some op) :
    op = tightLimit := by
  cases m <;> cases h
  rfl

theorem wellFormed_petPaths : WellFormed petPaths where
  format := ⟨"2.0", rfl⟩
  plain := by decide +kernel
  items := by
    intro path item h
    obtain ⟨-, rfl⟩ := List.mem_singleton.1 h
    exact {
      operations := by decide +kernel
      shared := by
        intro p hp
        have listed : pathParameters petItem = [typed "id" "path" "string",
          typed "limit" "query" "string", typed "pet" "body" "object"] := rfl
        rw [listed] at hp
        simp only [List.mem_cons, List.not_mem_nil, or_false] at hp
        rcases hp with rfl | rfl | rfl <;> exact wellDeclared_typed (by decide)
      own := by
        intro m op h p hp
        obtain rfl := operationOf?_petItem h
        obtain rfl := List.mem_singleton.1 hp
        exact wellDeclared_typed (by decide) }

theorem specOf_declarations_petPaths :
    WellFormed petPaths ∧ (declarations petPaths).map (·.parameters.length) = [2] ∧
    ∃ spec, (Library.specOf bareWorkspace .default none (.map petPaths)).outcome = .ok spec ∧
      List.Forall₂ OperationRead (declarations petPaths) spec.operations := by
  have loads : (Library.specOf bareWorkspace .default none (.map petPaths)).outcome.isOk = true := by
    decide +kernel
  obtain ⟨spec, h⟩ := exists_of_isOk loads
  exact ⟨wellFormed_petPaths, by decide +kernel, spec, h,
    Library.specOf_declarations wellFormed_petPaths h⟩

/-- An operation that has a body as in the newer family. -/
def strayItem : Members := [named "get" (.ofNamed [("requestBody", .ofNamed [("content", .map [])])])]

def strayPaths : Members :=
  [named "swagger" (.str "2.0"), named "paths" (.ofNamed [("/a", .map strayItem)])]

theorem wellFormed_strayPaths : WellFormed strayPaths where
  format := ⟨"2.0", rfl⟩
  plain := by decide +kernel
  items := by
    intro path item h
    obtain ⟨-, rfl⟩ := List.mem_singleton.1 h
    exact {
      operations := by decide +kernel
      shared := fun _ hp => nomatch hp
      own := by
        intro m op h p hp
        cases m <;> cases h
        cases hp }

/-- An operation that declares no body may be read with one. -/
theorem strayPaths_body_read :
    WellFormed strayPaths ∧ (declarations strayPaths).map (·.body?.isSome) = [false] ∧
    ∃ spec, (Library.specOf bareWorkspace .default none (.map strayPaths)).outcome = .ok spec ∧
      spec.operations.map (·.requestBody.isSome) = [true] := by
  have read : (Library.specOf bareWorkspace .default none (.map strayPaths)).outcome.toOption.map
      (·.operations.map (·.requestBody.isSome)) = some [true] := by
    decide +kernel
  obtain ⟨spec, h, bodies⟩ := Option.map_eq_some_iff.1 read
  refine ⟨wellFormed_strayPaths, by decide +kernel, spec, ?_, bodies⟩
  cases hx : (Library.specOf bareWorkspace .default none (.map strayPaths)).outcome with
  | ok s =>
    rw [hx] at h
    exact congrArg _ (Option.some.inj h)
  | error =>
    rw [hx] at h
    cases h

end Swagger

end ApiAccord
