import ApiAccord.Proofs.Checked
import ApiAccord.Proofs.Resemblance
import ApiAccord.Spec.Loading

/-!
# Reading documents that resemble each other

Two parameters can be read alike though they are not equal, as can two responses
(`ParameterAlike`, `ResponseAlike`).  From documents that differ in such entries only, the same
operations are read, or none from either (`Spec.ofDocument_together`).
-/

namespace ApiAccord

open Swagger (isOneOf methods)

namespace OperationReading

/-- Parameters that are read alike, and replace the same ones. -/
structure ParameterAlike (p q : Members) : Prop where
  key : parameterKey p = parameterKey q
  reading : parameter? p = parameter? q

/-- Responses that are read alike, whatever their status. -/
def ResponseAlike (r r' : Members) : Prop :=
  ∀ status, responses [(status, .map r)] = responses [(status, .map r')]

theorem ParameterAlike.refl (p : Members) : ParameterAlike p p := ⟨rfl, rfl⟩

/-! ## Parameters -/

variable {ps qs own own' : List Members} {v w v' w' : Value} {vs ws : List Value}

theorem mappings_rel (h : List.Forall₂ (Put ParameterAlike) vs ws) :
    List.Forall₂ ParameterAlike (mappings vs) (mappings ws) := by
  induction h with
  | nil => exact .nil
  | @cons v w rest rest' hv _ ih =>
    cases hv with
    | same =>
      cases v with
      | map p => exact .cons (.refl p) ih
      | _ => exact ih
    | map hp => exact .cons hp ih

theorem keys_eq (h : List.Forall₂ ParameterAlike ps qs) :
    ps.mapM parameterKey = qs.mapM parameterKey := by
  induction h with
  | nil => rfl
  | cons hp _ ih => rw [List.mapM_cons, List.mapM_cons, hp.key, ih]

/-- The parameters whose keys pass a test. -/
theorem kept_rel (h : List.Forall₂ ParameterAlike ps qs) (keys : List ParameterKey)
    (test : ParameterKey → Bool) :
    List.Forall₂ ParameterAlike (((ps.zip keys).filter fun p => test p.2).map (·.1))
      (((qs.zip keys).filter fun p => test p.2).map (·.1)) := by
  induction h generalizing keys with
  | nil => exact .nil
  | cons hp _ ih =>
    cases keys with
    | nil => exact .nil
    | cons key keys =>
      rw [List.zip_cons_cons, List.zip_cons_cons, List.filter_cons, List.filter_cons]
      dsimp only
      split
      · exact .cons hp (ih keys)
      · exact ih keys

theorem mergeParameters_together (h : Listed (Put ParameterAlike) v w)
    (h' : Listed (Put ParameterAlike) v' w') :
    Together (List.Forall₂ ParameterAlike) (mergeParameters v v') (mergeParameters w w') := by
  refine .bind (listed_items .same h') fun vs' ws' hi' => ?_
  have own := mappings_rel hi'
  dsimp only
  rw [keys_eq own]
  refine .bind_same fun keys => ?_
  refine .bind (listed_items .same h) fun vs ws hi => ?_
  have shared := mappings_rel hi
  rw [keys_eq shared]
  refine .bind_same fun sharedKeys => .pure ?_
  exact List.rel_append
    (kept_rel shared sharedKeys fun key => !keys.any (ParameterKey.same key)) own

theorem parameters_eq (h : List.Forall₂ ParameterAlike ps qs) : parameters ps = parameters qs := by
  have same : ps.filterMap parameter? = qs.filterMap parameter? := by
    induction h with
    | nil => rfl
    | cons hp _ ih => rw [List.filterMap_cons, List.filterMap_cons, hp.reading, ih]
  rw [parameters, parameters, same]

/-! ## Responses -/

theorem responses_cons (m : Scalar × Value) (rest : Members) :
    responses (m :: rest) = do
      let r ← responses [m]
      let rs ← responses rest
      return r ++ rs := by
  obtain ⟨status, v⟩ := m
  have none : (Except.ok [] : Except Failure (List Response)) = pure [] := rfl
  cases v with
  | map r => simp only [responses, bind_assoc, pure_bind, none, List.cons_append, List.nil_append]
  | _ => simp only [responses, pure_bind, none, List.nil_append, bind_pure]

theorem responses_eq {ms ms' : Members} (h : Members.Rel (fun _ => Put ResponseAlike) ms ms') :
    responses ms = responses ms' := by
  induction h with
  | nil => rfl
  | @cons m m' rest rest' hm _ ih =>
    obtain ⟨status, v⟩ := m
    obtain ⟨status', w⟩ := m'
    obtain rfl : status = status' := hm.1
    rw [responses_cons, responses_cons (_, w), ih]
    have one : responses [(status, v)] = responses [(status, w)] := by
      cases (hm.2 : Put ResponseAlike v w) with
      | same => rfl
      | map hr => exact hr status
    rw [one]

/-! ## Operations -/

/-- Entries that are read alike. -/
abbrev ReadAlike : Value → Value → Prop := Resembles (Put ParameterAlike) (Put ResponseAlike)

abbrev OperationAlike : Scalar → Value → Value → Prop :=
  LikeOperation (Put ParameterAlike) (Put ResponseAlike)

abbrev ItemAlike : Scalar → Value → Value → Prop :=
  LikeItem (Put ParameterAlike) (Put ResponseAlike)

abbrev DocumentAlike : Scalar → Value → Value → Prop :=
  LikeDocument (Put ParameterAlike) (Put ResponseAlike)

section Similar

variable {R : Scalar → Value → Value → Prop} {ms ms' : Members} {name : String}

theorem truthy_eq_of_similar (h : Similar R v w) : v.truthy = w.truthy := by
  cases h with
  | same => rfl
  | map h => cases h <;> rfl

/-- Sections of mappings, empty where they are missing. -/
theorem sectionOf_similar (h : Option.Rel (Similar R) (ms.get? name) (ms'.get? name)) :
    Similar R (sectionOf ms name) (sectionOf ms' name) := by
  unfold sectionOf
  generalize ms.get? name = x, ms'.get? name = y at h ⊢
  cases h with
  | none => exact .same _
  | some h =>
    unfold Value.ifTruthy
    simp only [truthy_eq_of_similar h]
    split
    · exact h
    · exact .same _

end Similar

theorem liftShape_together {α β : Type} {R : α → β → Prop} {x : Except Malformed α}
    {y : Except Malformed β} (h : Together R x y) :
    Together R (Failure.liftShape x) (Failure.liftShape y) := by
  obtain ⟨m, m', rfl, rfl⟩ | ⟨a, b, rfl, rfl, hr⟩ := h.failed_or_ok
  · exact .error _ _
  · exact .pure hr

theorem operation_together {shared shared' : Value} {op op' : Members} (path : Scalar)
    (security : Value) (method : HttpMethod) (hs : Listed (Put ParameterAlike) shared shared')
    (h : Members.Rel OperationAlike op op') :
    Together Eq (operation path shared security method op)
      (operation path shared' security method op') := by
  have own : Listed (Put ParameterAlike) ((op.get? "parameters").getD (.list []))
      ((op'.get? "parameters").getD (.list [])) :=
    getD_rel (h.get? "parameters") (.same _)
  have answers : Similar (fun _ => Put ResponseAlike) (sectionOf op "responses")
      (sectionOf op' "responses") :=
    sectionOf_similar (h.get? "responses")
  have same : ∀ name, name ≠ "parameters" → name ≠ "responses" → op.get? name = op'.get? name :=
    fun name => get?_eq_of_likeOperation h
  unfold operation
  refine .bind (liftShape_together (mergeParameters_together hs own)) fun merged merged' hm => ?_
  rw [parameters_eq hm, same "requestBody" (by decide) (by decide)]
  refine .bind_same fun ps => ?_
  refine .bind_same fun body => ?_
  refine .bind (liftShape_together (similar_members (fun _ => .same) answers)) fun rs rs' hrs => ?_
  rw [responses_eq hrs]
  refine .bind_same fun answers => ?_
  simp only [Record.field, Record.find?, same "security" (by decide) (by decide),
    same "operationId" (by decide) (by decide), same "summary" (by decide) (by decide),
    same "tags" (by decide) (by decide), same "deprecated" (by decide) (by decide)]
  exact .refl (fun _ => rfl) _

/-! ## Path items -/

theorem filterMap_rel {α β γ : Type} {S : β → γ → Prop} {f : α → Option β} {g : α → Option γ}
    (l : List α) (h : ∀ a, Option.Rel S (f a) (g a)) : List.Forall₂ S (l.filterMap f) (l.filterMap g) := by
  induction l with
  | nil => exact .nil
  | cons a rest ih =>
    have ha := h a
    rw [List.filterMap_cons, List.filterMap_cons]
    generalize f a = x, g a = y at ha ⊢
    cases ha with
    | none => exact ih
    | some hr => exact .cons hr ih

/-- Operations of the same method that are read alike. -/
def MethodAlike (a b : HttpMethod × Members) : Prop :=
  a.1 = b.1 ∧ Members.Rel OperationAlike a.2 b.2

theorem methodAlike_same (a : HttpMethod × Members) : MethodAlike a a :=
  ⟨rfl, .refl likeOperation_same a.2⟩

/-- A method of path items that are read alike. -/
theorem method_rel {item item' : Members} (h : Members.Rel ItemAlike item item')
    (m : HttpMethod) :
    Option.Rel MethodAlike ((item.get? m.name).bind fun v => do return (m, ← v.members?))
      ((item'.get? m.name).bind fun v => do return (m, ← v.members?)) := by
  have same : ∀ x : Option (HttpMethod × Members), Option.Rel MethodAlike x x := fun x => by
    cases x with
    | none => exact .none
    | some a => exact .some (methodAlike_same a)
  have member := h.get? m.name
  generalize item.get? m.name = x, item'.get? m.name = y at member ⊢
  cases member with
  | none => exact .none
  | @some v w hv =>
    have noList : isOneOf ["parameters"] (.str m.name) = false := by cases m <;> rfl
    rw [ItemAlike, LikeItem, noList] at hv
    simp only [Bool.false_eq_true, if_false] at hv
    split at hv
    · cases hv with
      | same => exact same _
      | map hop => exact .some ⟨rfl, hop⟩
    · subst hv
      exact same _

theorem ofPathItem_together {item item' : Members} (security : Value) (path : Scalar)
    (h : Members.Rel ItemAlike item item') :
    Together Eq (ofPathItem security path item) (ofPathItem security path item') := by
  have shared : Listed (Put ParameterAlike) ((item.get? "parameters").getD (.list []))
      ((item'.get? "parameters").getD (.list [])) :=
    getD_rel (h.get? "parameters") (.same _)
  unfold ofPathItem
  refine Together.mono (.mapM (filterMap_rel HttpMethod.all (method_rel h))
    fun a b hab => ?_) fun as bs has => List.forall₂_eq_eq_eq ▸ has
  obtain ⟨m, op⟩ := a
  obtain ⟨m', op'⟩ := b
  obtain ⟨rfl, hop⟩ := hab
  exact operation_together path security _ shared hop

theorem ofPaths_together {ms ms' : Members} (security : Value)
    (h : Members.Rel (fun _ => Similar ItemAlike) ms ms') :
    Together Eq (ofPaths security ms) (ofPaths security ms') := by
  induction h with
  | nil => exact .refl (fun _ => rfl) _
  | @cons m m' rest rest' hm _ ih =>
    obtain ⟨path, v⟩ := m
    obtain ⟨path', w⟩ := m'
    obtain rfl : path = path' := hm.1
    have items : ∀ item item', Members.Rel ItemAlike item item' →
        Together Eq (ofPaths security ((path, .map item) :: rest))
          (ofPaths security ((path, .map item') :: rest')) := fun item item' hi =>
      .bind (ofPathItem_together security path hi) fun ops _ ho => ho ▸
        .bind ih fun more _ hr => hr ▸ .pure rfl
    cases (hm.2 : Similar ItemAlike v w) with
    | same =>
      cases v with
      | map item => exact items item item (.refl likeItem_same item)
      | _ => exact ih
    | map hi => exact items _ _ hi

end OperationReading

/-! ## Documents -/

namespace SpecReading

open OperationReading

variable {ms ms' : Members} {u u' : Value}

theorem operations_together (h : Members.Rel DocumentAlike ms ms') :
    Together Eq (operations ms) (operations ms') := by
  have paths : Similar (fun _ => Similar ItemAlike) (sectionOf ms "paths")
      (sectionOf ms' "paths") :=
    sectionOf_similar (h.get? "paths")
  unfold operations
  rw [get?_eq_of_likeDocument h (by decide : "security" ≠ "paths")]
  exact .bind (liftShape_together (similar_members (fun _ => .same) paths)) fun ps ps' hps =>
    ofPaths_together _ hps

/-- Everything but the operations is read from other members. -/
theorem others_eq (h : Members.Rel DocumentAlike ms ms') (u : Value) (source : Option String) :
    schemas ms u = schemas ms' u ∧ metadata ms source = metadata ms' source ∧
      securitySchemes ms = securitySchemes ms' := by
  have same : ∀ name, name ≠ "paths" → ms.get? name = ms'.get? name := fun name =>
    get?_eq_of_likeDocument h
  have components : sectionOf ms "components" = sectionOf ms' "components" := by
    rw [sectionOf, sectionOf, same "components" (by decide)]
  have info : sectionOf ms "info" = sectionOf ms' "info" := by
    rw [sectionOf, sectionOf, same "info" (by decide)]
  refine ⟨?_, ?_, ?_⟩
  · simp only [schemas, component, components]
  · simp only [metadata, servers, info, same "servers" (by decide), same "tags" (by decide),
      same "externalDocs" (by decide)]
  · simp only [securitySchemes, component, components]

end SpecReading

/-! ## Checks -/

section Checks

variable {α β : Type} {c : Checked α}

theorem liftRecord_eq_ok_iff {record : String} {a : α} :
    Failure.liftRecord record c = .ok a ↔ c = .ok a := by
  cases c <;> simp [Failure.liftRecord]

theorem liftShape_eq_ok_iff {x : Except Malformed α} {a : α} :
    Failure.liftShape x = .ok a ↔ x = .ok a := by
  cases x <;> simp [Failure.liftShape]

theorem liftRecord_together {R : α → β → Prop} {x : Checked α} {y : Checked β} (record : String)
    (h : x.passes = y.passes) (hr : ∀ a b, x = .ok a → y = .ok b → R a b) :
    Together R (Failure.liftRecord record x) (Failure.liftRecord record y) := by
  cases x with
  | ok a =>
    cases y with
    | ok b => exact .pure (hr a b rfl rfl)
    | faults => cases h
  | faults =>
    cases y with
    | ok => cases h
    | faults => exact .error _ _

end Checks

/-! ## Specifications -/

/-- The specifications have the same operations. -/
def SameOperations (s s' : Spec) : Prop := s.operations = s'.operations

/-- Whether operations are repeated is said by the operations. -/
theorem Spec.checkRepeated_together {s s' : Spec} (record : String) (h : SameOperations s s') :
    Together SameOperations (Failure.liftRecord record s.checkRepeated)
      (Failure.liftRecord record s'.checkRepeated) := by
  unfold checkRepeated
  rw [← show s.operations = s'.operations from h]
  cases repeated? [] s.operations with
  | none => exact .pure h
  | some op => exact .error _ _

theorem Spec.eq_of_checkRepeated {s s' : Spec} (h : s.checkRepeated = .ok s') : s = s' := by
  unfold checkRepeated at h
  split at h
  · exact Checked.ok.inj h
  · cases h

/-- No operation is repeated if all have different paths or methods. -/
theorem Spec.repeated?_eq_none_iff {os : List Operation} {seen : List (String × HttpMethod)} :
    repeated? seen os = none ↔
      (os.map fun o => (o.path, o.method)).Nodup ∧ ∀ o ∈ os, (o.path, o.method) ∉ seen := by
  induction os generalizing seen with
  | nil => simp [repeated?]
  | cons o rest ih =>
    rw [repeated?]
    split
    · next hs => simp [List.contains_iff_mem.1 hs]
    · next hs =>
      rw [List.contains_iff_mem] at hs
      simp only [ih, List.map_cons, List.nodup_cons, List.mem_map, List.forall_mem_cons, not_exists,
        not_and]
      simp only [List.mem_cons, not_or]
      constructor
      · rintro ⟨nodup, later⟩
        exact ⟨⟨fun o' ho => (later o' ho).1, nodup⟩, hs, fun o' ho => (later o' ho).2⟩
      · rintro ⟨⟨first, nodup⟩, -, later⟩
        exact ⟨nodup, fun o' ho => ⟨first o' ho, later o' ho⟩⟩

theorem Spec.checkRepeated_of_nodup {spec : Spec}
    (h : (spec.operations.map fun o => (o.path, o.method)).Nodup) :
    spec.checkRepeated = .ok spec := by
  have none : repeated? [] spec.operations = none :=
    repeated?_eq_none_iff.2 ⟨h, fun _ _ => List.not_mem_nil⟩
  rw [checkRepeated, none]

/-- The operations of a specification are those that are read from the paths. -/
theorem Spec.operations_of_ofDocument {format : SpecFormat} {version : String} {u : Value}
    {ms : Members} {source : Option String} {spec : Spec}
    (h : ofDocument format version u (.map ms) source = .ok spec) :
    SpecReading.operations ms = .ok spec.operations := by
  unfold ofDocument at h
  obtain ⟨_, same, h⟩ := bind_eq_ok_iff.1 h
  obtain rfl := Except.ok.inj same
  obtain ⟨operations, ho, h⟩ := bind_eq_ok_iff.1 h
  obtain ⟨_, -, h⟩ := bind_eq_ok_iff.1 h
  obtain ⟨_, -, h⟩ := bind_eq_ok_iff.1 h
  obtain ⟨_, -, h⟩ := bind_eq_ok_iff.1 h
  rw [liftRecord_eq_ok_iff] at h
  obtain ⟨_, read, h⟩ := andThen_eq_ok_iff.1 h
  obtain ⟨_, -, rfl⟩ := map_check_eq_ok_iff.1 read
  obtain rfl := eq_of_checkRepeated h
  exact ho

/-- Whether the named schemas can be read does not depend on how often they are referred to. -/
theorem SpecReading.schemas_together (ms : Members) (u u' : Value) :
    Together (fun _ _ => True) (schemas ms u) (schemas ms u') := by
  refine .bind_same fun named => ?_
  have same : List.Forall₂ Eq named named := List.forall₂_same.2 fun _ _ => rfl
  refine Together.mono (.mapM (S := fun _ _ => True) same ?_) fun _ _ _ => trivial
  rintro m _ rfl
  refine liftRecord_together _ ?_ fun _ _ _ _ => trivial
  simp only [schema, passes_seq, passes_map]

/-- The operations of a document do not depend on how it looked before its references were resolved,
nor on how parameters and responses are written that are read alike. -/
theorem Spec.ofDocument_together {doc doc' : Value} (h : OperationReading.ReadAlike doc doc')
    (format format' : SpecFormat) (version version' : String) (u u' : Value)
    (source : Option String) :
    Together SameOperations (ofDocument format version u doc source)
      (ofDocument format' version' u' doc' source) := by
  have members : Together (fun ms ms' => Members.Rel OperationReading.DocumentAlike ms ms' ∧
      doc = .map ms ∧ doc' = .map ms') (Failure.liftShape doc.members)
      (Failure.liftShape doc'.members) := by
    cases h with
    | map h => exact .pure ⟨h, rfl, rfl⟩
    | same doc =>
      cases doc with
      | map ms => exact .pure ⟨.refl likeDocument_same ms, rfl, rfl⟩
      | _ => exact .error _ _
  refine .bind members fun ms ms' hms => ?_
  obtain ⟨hms, rfl, rfl⟩ := hms
  obtain ⟨hs, hm, hc⟩ := SpecReading.others_eq hms u' source
  have schemas : Together (fun _ _ => True) (SpecReading.schemas ms u)
      (SpecReading.schemas ms' u') :=
    hs ▸ SpecReading.schemas_together ms u u'
  rw [← hm, ← hc]
  refine .bind (SpecReading.operations_together hms) fun operations _ ho => ho ▸ ?_
  refine .bind schemas fun schemas schemas' _ => ?_
  refine .bind_same fun metadata => ?_
  refine .bind_same fun schemes => ?_
  have keys : ms.map (·.1) = ms'.map (·.1) := by
    rw [← List.forall₂_eq_eq_eq]
    exact List.forall₂_map_left_iff.2 (List.forall₂_map_right_iff.2 (hms.imp fun _ _ hm => hm.1))
  have document : ((Field.namedMapping (.map ms)).at_ (.field "document")).passes =
      ((Field.namedMapping (.map ms')).at_ (.field "document")).passes := by
    rw [passes_at, passes_at, Field.passes_namedMapping, Field.passes_namedMapping, keys]
  generalize (Field.namedMapping (.map ms)).at_ (.field "document") = x at document
  generalize (Field.namedMapping (.map ms')).at_ (.field "document") = y at document
  cases x <;> cases y
  · exact checkRepeated_together _ (Eq.refl operations)
  · cases document
  · cases document
  · exact .error _ _

end ApiAccord
