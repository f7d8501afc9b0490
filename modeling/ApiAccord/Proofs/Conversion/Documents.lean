import ApiAccord.Proofs.Conversion.Operations

/-!
# Converted documents

Documents whose sections agree are converted into documents that agree (`assemble_follows`).  What
is beside the sections has no references and is the same on both sides.
-/

namespace ApiAccord.Swagger

variable (home : String) (conv : Members) (names : List Scalar)

/-- Values under a key of documents. -/
def DocumentField (k : Scalar) (v w : Value) : Prop :=
  if isOneOf ["definitions"] k then Each (fun _ => Agrees home conv) v w
  else if isOneOf ["parameters"] k then Each (fun _ => TypedRel home conv) v w
  else if isOneOf ["responses"] k then Each (fun _ => ResponseRel home conv) v w
  else if isOneOf ["paths"] k then Each (fun _ => Each (PathField home conv names)) v w
  else v = w ∧ plain v = true

variable {home conv names} {name old new : String} {v w : Value} {doc doc' ms ms' : Members}
  {R : Scalar → Value → Value → Prop}

/-- What has no references is like itself. -/
theorem documentField_self {k : Scalar} (h : plain v = true) :
    DocumentField home conv names k v v := by
  unfold DocumentField
  split
  · exact Each.self (fun _ _ => agrees_self) h
  · split
    · exact Each.self (fun _ _ => Each.self fun _ _ => fieldRel_self) h
    · split
      · exact Each.self (fun _ _ => Each.self fun _ _ => responseField_self) h
      · split
        · exact Each.self (fun _ _ => Each.self fun _ _ => pathField_self) h
        · exact ⟨rfl, h⟩

/-! ## Sections -/

theorem section?_rel (h : Option.Rel (Each R) (doc.get? name) (doc'.get? name)) :
    Option.Rel (Each R) (section? doc name) (section? doc' name) := by
  rw [section?, section?]
  generalize doc.get? name = x, doc'.get? name = y at h ⊢
  cases h with
  | none => exact .none
  | some h =>
    rw [Value.ifTruthy, Value.ifTruthy, h.truthy]
    split
    · exact .some h
    · exact .none

theorem sectionMembers_follows (h : Option.Rel (Each R) (doc.get? name) (doc'.get? name)) :
    Follows (Alike R) (sectionMembers doc name) (sectionMembers doc' name) := by
  have sections := section?_rel h
  rw [sectionMembers, sectionMembers]
  generalize section? doc name = x, section? doc' name = y at sections ⊢
  cases sections with
  | none => exact .pure .nil
  | some h => exact h.members

theorem sharedSection_follows {f : Value → Except Malformed Value} (hn : new ≠ "$ref")
    (h : Option.Rel (Each R) (doc.get? old) (doc'.get? old))
    (hf : ∀ k v w, R k v w →
      Follows (fun u u' => Agrees home conv u u' ∧ (v.str? = none → u.str? = none)) (f v) (f w)) :
    Follows (Matching home conv) (sharedSection doc old new f) (sharedSection doc' old new f) := by
  have sections := section?_rel h
  rw [sharedSection, sharedSection]
  generalize section? doc old = x, section? doc' old = y at sections ⊢
  cases sections with
  | none => exact .pure .nil
  | some h =>
    exact .bind h.members fun ms ms' hms => .bind (hms.mapValues hf) fun out out' hout =>
      .pure (.cons_named hn hout.agrees .nil)

theorem sharedParameters_follows {wanted : Members → Bool} {f : Members → Except Malformed Members}
    (hw : ∀ p p', Alike (FieldRel home conv schemaFields) p p' → wanted p = wanted p')
    (hf : ∀ p p', Alike (FieldRel home conv schemaFields) p p' →
      Follows (Matching home conv) (f p) (f p'))
    (h : Alike (fun _ => TypedRel home conv) ms ms') :
    Follows (Matching home conv)
      (sharedParameters wanted f ms) (sharedParameters wanted f ms') := by
  refine follows_collect h fun m m' hm => .bind hm.value.members fun p p' hp => ?_
  rw [hw p p' hp]
  split
  · exact .bind (hf p p' hp) fun q q' hq => .pure (.some ⟨hm.key, hq.agrees, fun _ => rfl⟩)
  · exact .pure .none

theorem under_matching (name : String) (hn : name ≠ "$ref") (h : Matching home conv ms ms') :
    Matching home conv ((ms.get? name).map (named name)).toList
      ((ms'.get? name).map (named name)).toList :=
  matching_toList (h.get? name) fun _ _ ha => .cons_named hn ha .nil

theorem schemeMembers_follows (h : Alike (FieldRel home conv []) ms ms') :
    Follows (Matching home conv) (schemeMembers ms) (schemeMembers ms') := by
  have agree : Matching home conv ms ms' := h.mono fun _ _ _ hf => hf.agrees
  have scopes : Matching home conv [named "scopes" ((ms.get? "scopes").getD (.map []))]
      [named "scopes" ((ms'.get? "scopes").getD (.map []))] :=
    .cons_named (by decide) (getD_rel (agree.get? "scopes") (agrees_self rfl)) .nil
  have flow : flowName ms = flowName ms' := by rw [flowName, flowName, get?_eq h rfl]
  rw [schemeMembers, schemeMembers, getOrNull_eq h rfl, flow]
  split
  · exact .pure (.cons_named (by decide) (agrees_scalar _)
      (.cons_named (by decide) (agrees_scalar _) .nil))
  · split
    · refine .bind (.refl (R := Eq) fun _ _ => rfl) fun flow _ hflow => .pure ?_
      subst hflow
      have details := ((scopes.append (under_matching "authorizationUrl" (by decide) agree)).append
        (under_matching "tokenUrl" (by decide) agree)).agrees
      have flows : Matching home conv [(flow, .map _)] [(flow, .map _)] :=
        .cons ⟨Eq.refl flow, details, fun _ => rfl⟩ .nil
      exact .cons_named (by decide) (agrees_scalar _) (.cons_named (by decide) flows.agrees .nil)
    · exact .pure (agree.filter (fun m m' hm => by rw [hm.key]) fun _ _ hm _ => hm.value)

theorem securityScheme_follows (h : Each (FieldRel home conv []) v w) :
    Follows (fun u u' => Agrees home conv u u' ∧ (v.str? = none → u.str? = none))
      (securityScheme v) (securityScheme w) := by
  refine .bind h.members fun s s' hs => .bind (schemeMembers_follows hs) fun out out' hout =>
    .pure ⟨(hout.append (Alike.present (.cons_named (by decide) ?_ .nil))).agrees, fun _ => rfl⟩
  exact getOrNull_agrees hs "description"

/-! ## Servers -/

theorem plain_server {host base scheme : Value} (h : server host base scheme = .ok v) :
    plain v = true := by
  unfold server at h
  split at h
  · exact Except.ok.inj h ▸ rfl
  · exact Except.ok.inj h ▸ rfl
  · cases h

theorem server_agrees {host base scheme : Value} (h : server host base scheme = .ok v) :
    Agrees home conv v v :=
  agrees_self (plain_server h)

theorem servers_follows (h : servers doc = servers doc') :
    Follows (List.Forall₂ (Agrees home conv)) (servers doc) (servers doc') := by
  rw [h, servers]
  split
  · exact .pure .nil
  · refine .bind (.refl (R := Eq) fun _ _ => rfl) fun schemes _ hs => ?_
    subst hs
    exact .mapM (List.forall₂_same.2 fun _ _ => rfl) fun s _ hs =>
      hs ▸ .refl fun _ => server_agrees

/-! ## Documents -/

/-- The sections of a document, where references may stand. -/
def sections : List String := ["definitions", "parameters", "responses", "paths"]

/-- What is kept as it is has none of the names under which something is moved. -/
theorem isOneOf_of_kept {names : List String} {k : Scalar} {apart : Bool}
    (moved : names ⊆ movedFields)
    (kept : (!movedFields.any (Value.scalar k).isText && apart) = true) :
    isOneOf names k = false := by
  rw [Bool.and_eq_true, Bool.not_eq_true', List.any_eq_false] at kept
  exact List.any_eq_false.2 fun name hn => kept.1 name (moved hn)

/-- What is beside the sections is the same, and has no references. -/
theorem DocumentField.beside {k : Scalar} (h : DocumentField home conv names k v w)
    (hk : isOneOf sections k = false) : v = w ∧ plain v = true := by
  simp only [sections, isOneOf, List.any_cons, List.any_nil, Bool.or_false,
    Bool.or_eq_false_iff] at hk
  obtain ⟨h₁, h₂, h₃, h₄⟩ := hk
  simpa only [DocumentField, isOneOf_singleton, h₁, h₂, h₃, h₄, Bool.false_eq_true, if_false]
    using h

theorem rel_of_beside (name : String) (h : Alike (DocumentField home conv names) doc doc')
    (hn : isOneOf sections (.str name) = false) :
    Option.Rel (fun v w => v = w ∧ plain v = true) (doc.get? name) (doc'.get? name) :=
  rel_mono (h.get? name) fun _ _ hf => DocumentField.beside hf hn

theorem get?_eq_of_beside (name : String) (h : Alike (DocumentField home conv names) doc doc')
    (hn : isOneOf sections (.str name) = false) :
    doc.get? name = doc'.get? name :=
  eq_of_rel (rel_of_beside name h hn) fun _ _ => And.left

theorem servers_eq (h : Alike (DocumentField home conv names) doc doc') :
    servers doc = servers doc' := by
  unfold servers section? Members.has
  rw [get?_eq_of_beside "host" h (by decide), get?_eq_of_beside "basePath" h (by decide),
    get?_eq_of_beside "schemes" h (by decide)]

theorem components_follows (h : Alike (DocumentField home conv names) doc doc') :
    Follows (Matching home conv) (components doc) (components doc') := by
  have definitions : Option.Rel (Each fun _ => Agrees home conv)
    (doc.get? "definitions") (doc'.get? "definitions") := h.get? "definitions"
  have parameters : Option.Rel (Each fun _ => TypedRel home conv)
    (doc.get? "parameters") (doc'.get? "parameters") := h.get? "parameters"
  have responses : Option.Rel (Each fun _ => ResponseRel home conv)
    (doc.get? "responses") (doc'.get? "responses") := h.get? "responses"
  have schemes : Option.Rel (Each fun _ => Each (FieldRel home conv []))
      (doc.get? "securityDefinitions") (doc'.get? "securityDefinitions") := by
    refine rel_mono (rel_of_beside "securityDefinitions" h (by decide)) fun v w hf => ?_
    obtain ⟨rfl, hp⟩ := hf
    exact Each.self (fun _ _ => Each.self fun _ _ => fieldRel_self) hp
  have schemas : Matching home conv ((section? doc "definitions").map (named "schemas")).toList
      ((section? doc' "definitions").map (named "schemas")).toList :=
    matching_toList (rel_mono (section?_rel definitions) fun _ _ he => he.agrees fun _ _ _ => id)
      fun _ _ ha => .cons_named (by decide) ha .nil
  refine .bind (sectionMembers_follows parameters) fun shared shared' hs =>
    .bind (sharedParameters_follows (fun p p' hp => by rw [inBody_eq hp])
      (fun _ _ => parameter_follows) hs) fun ps ps' hps =>
    .bind (sharedParameters_follows (fun p p' hp => inBody_eq hp)
      (fun _ _ hp => .pure (body_matching hp)) hs) fun bs bs' hbs =>
    .bind (sharedSection_follows (by decide) responses fun _ _ _ => response_follows)
      fun rs rs' hrs => .bind (sharedSection_follows (by decide) schemes fun _ _ _ =>
        securityScheme_follows) fun ss ss' hss => .pure ?_
  exact (((schemas.append (hps.unlessEmpty (by decide))).append
    (hbs.unlessEmpty (by decide))).append hrs).append hss

theorem bodyNames_eq (h : Alike (fun _ => TypedRel home conv) ms ms') :
    bodyNames ms = bodyNames ms' := by
  induction h with
  | nil => rfl
  | @cons m m' rest rest' hm _ ih =>
    obtain ⟨k, v⟩ := m
    obtain ⟨k', w⟩ := m'
    obtain rfl : k = k' := hm.key
    rw [bodyNames, bodyNames, List.filterMap_cons, List.filterMap_cons]
    cases (hm.value : TypedRel home conv v w) with
    | map hp =>
      dsimp only
      rw [inBody_eq hp]
      split
      · exact ih
      · exact congrArg _ ih
    | other hv _ =>
      cases v with
      | map => cases hv
      | _ => exact ih

theorem assemble_follows {version : String} (h : Alike (DocumentField home conv names) doc doc')
    (hn : ∀ shared, sectionMembers doc "parameters" = .ok shared → names = bodyNames shared) :
    Follows (Matching home conv) (assemble version doc) (assemble version doc') := by
  have parameters : Option.Rel (Each fun _ => TypedRel home conv)
    (doc.get? "parameters") (doc'.get? "parameters") := h.get? "parameters"
  have paths : Option.Rel (Each fun _ => Each (PathField home conv names))
    (doc.get? "paths") (doc'.get? "paths") := h.get? "paths"
  have info : Agrees home conv ((doc.get? "info").getD (.map []))
      ((doc'.get? "info").getD (.map [])) := by
    refine getD_rel (rel_mono (rel_of_beside "info" h (by decide)) fun v w hf => ?_)
      (agrees_self rfl)
    exact hf.1 ▸ agrees_self hf.2
  refine .bind (R := List.Forall₂ (Agrees home conv)) (servers_follows (servers_eq h))
    fun served served' hserved => ?_
  refine .bind ((sectionMembers_follows parameters).of_ok
    fun shared shared' hs _ hr => And.intro (hn shared hs) hr) fun shared shared' hs => ?_
  rw [← bodyNames_eq hs.2, ← hs.1]
  refine .bind (sectionMembers_follows paths) fun ps ps' hps =>
    .bind (follows_collect hps fun _ _ => path_follows) fun items items' hitems =>
    .bind (components_follows h) fun comps comps' hcomps => .pure ?_
  have servers : Matching home conv
      (if served.isEmpty then [] else [named "servers" (.list served)])
      (if served'.isEmpty then [] else [named "servers" (.list served')]) := by
    have empty : served.isEmpty = served'.isEmpty := by cases hserved <;> rfl
    rw [empty]
    split
    · exact .nil
    · exact .cons_named (by decide) (.list hserved) .nil
  have head : Matching home conv
      [named "openapi" (.str version), named "info" ((doc.get? "info").getD (.map []))]
      [named "openapi" (.str version), named "info" ((doc'.get? "info").getD (.map []))] :=
    .cons_named (by decide) (agrees_scalar _) (.cons_named (by decide) info .nil)
  have items : Matching home conv [named "paths" (.map items)] [named "paths" (.map items')] :=
    .cons_named (by decide) (Alike.agrees hitems) .nil
  have moved := ((head.append servers).append items).append
    (hcomps.unlessEmpty (by decide : "components" ≠ "$ref"))
  refine moved.append (h.filter (fun m m' hm => ?_) fun m m' hm hk => ?_)
  · rw [hm.key, moved.isNone_lookup]
  · have beside : isOneOf sections m.1 = false := isOneOf_of_kept (by decide) hk
    obtain ⟨same, plain⟩ := DocumentField.beside hm.value beside
    exact same ▸ agrees_self plain

end ApiAccord.Swagger
