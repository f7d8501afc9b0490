import ApiAccord.Proofs.Conversion.Agreement

/-!
# Converted parameters and responses

The conversion of a parameter, a header, a body or a response reads some members, which have no
references, and puts others into new places.  So parts that agree in all members are converted into
parts that agree (`parameter_follows`, `body_matching`, `header_follows`, `response_follows`).
-/

namespace ApiAccord.Swagger

variable (home : String) (conv : Members)

/-! ## Members that agree -/

/-- Values under a key that agree, and are the same unless the key is one of the names. -/
structure FieldRel (names : List String) (k : Scalar) (v w : Value) : Prop where
  agrees : Agrees home conv v w
  same : isOneOf names k = false → v = w

/-- Parameters or headers that agree. -/
abbrev TypedRel : Value → Value → Prop := Each (FieldRel home conv schemaFields)

/-- Values under a key of responses. -/
def ResponseField (k : Scalar) (v w : Value) : Prop :=
  if isOneOf ["headers"] k then Each (fun _ => TypedRel home conv) v w
  else FieldRel home conv ["schema"] k v w

/-- Responses that agree. -/
abbrev ResponseRel : Value → Value → Prop := Each (ResponseField home conv)

variable {home conv} {names : List String} {name : String} {k : Scalar} {v w : Value}
  {p p' r r' ms ms' : Members}

theorem fieldRel_self (h : plain v = true) : FieldRel home conv names k v v :=
  ⟨agrees_self h, fun _ => rfl⟩

theorem responseField_self (h : plain v = true) : ResponseField home conv k v v := by
  unfold ResponseField
  split
  · exact Each.self (fun _ _ => Each.self fun _ _ => fieldRel_self) h
  · exact fieldRel_self h

theorem TypedRel.agrees (h : TypedRel home conv v w) : Agrees home conv v w :=
  Each.agrees h fun _ _ _ hf => hf.agrees

theorem ResponseField.agrees (h : ResponseField home conv k v w) : Agrees home conv v w := by
  unfold ResponseField at h
  split at h
  · exact Each.agrees h fun _ _ _ ht => TypedRel.agrees ht
  · exact FieldRel.agrees h

theorem getOrNull_agrees (h : Alike (FieldRel home conv names) ms ms') (name : String) :
    Agrees home conv (getOrNull ms name) (getOrNull ms' name) :=
  (h.getOrNull (fieldRel_self rfl)).agrees

theorem get?_eq (h : Alike (FieldRel home conv names) ms ms')
    (hn : isOneOf names (.str name) = false) : ms.get? name = ms'.get? name :=
  eq_of_rel (h.get? name) fun _ _ hf => hf.same hn

theorem getOrNull_eq (h : Alike (FieldRel home conv names) ms ms')
    (hn : isOneOf names (.str name) = false) : getOrNull ms name = getOrNull ms' name := by
  rw [getOrNull, getOrNull, get?_eq h hn]

/-! ## Parameters -/

theorem typeSchema_matching (h : Alike (FieldRel home conv names) p p') :
    Matching home conv (typeSchema p) (typeSchema p') := by
  refine Alike.present (List.forall₂_map_left_iff.2 (List.forall₂_map_right_iff.2
    (List.forall₂_same.2 fun name hn => ⟨rfl, getOrNull_agrees h name, fun hk => ?_⟩)))
  -- No member that says a type is named as references are.
  have noRef : "$ref" ∉ typeFields := by decide
  exact absurd (Scalar.str.inj (isRefKey_iff.1 hk) ▸ hn) noRef

theorem parameter_follows (h : Alike (FieldRel home conv schemaFields) p p') :
    Follows (Matching home conv) (parameter p) (parameter p') := by
  have required : getOrNull p "required" = getOrNull p' "required" := getOrNull_eq h (by decide)
  have place : getOrNull p "in" = getOrNull p' "in" := getOrNull_eq h (by decide)
  rw [parameter, parameter, h.has, saysRequired, saysRequired, required, place]
  split
  · exact .pure (h.mono fun _ _ _ hf => hf.agrees)
  · refine .bind (h.extensions fun _ _ _ hf => hf.agrees) fun es es' hes => .pure ?_
    refine ((Alike.append ?_ ((typeSchema_matching h).unlessEmpty (by decide))).append hes).present
    exact .cons_named (by decide) (getOrNull_agrees h "name")
      (.cons_named (by decide) (place ▸ getOrNull_agrees h "in")
        (.cons_named (by decide) (getOrNull_agrees h "description")
          (.cons_named (by decide) (agrees_scalar _) .nil)))

theorem content_matching (h : Agrees home conv v w) :
    Matching home conv [content v] [content w] := by
  have schema : Matching home conv [named "schema" v] [named "schema" w] :=
    .cons_named (by decide) h .nil
  have json : Matching home conv [named "application/json" (.map [named "schema" v])]
      [named "application/json" (.map [named "schema" w])] :=
    .cons_named (by decide) schema.agrees .nil
  exact .cons_named (by decide) json.agrees .nil

theorem body_matching (h : Alike (FieldRel home conv schemaFields) p p') :
    Matching home conv (body p) (body p') := by
  have required : getOrNull p "required" = getOrNull p' "required" := getOrNull_eq h (by decide)
  have schema : FieldRel home conv schemaFields (.str "schema")
      ((p.get? "schema").getD (.map [])) ((p'.get? "schema").getD (.map [])) :=
    getD_rel (h.get? "schema") (fieldRel_self rfl)
  rw [body, body, saysRequired, saysRequired, required]
  exact Alike.present (.cons_named (by decide) (getOrNull_agrees h "description")
    (.cons_named (by decide) (agrees_scalar _) (content_matching schema.agrees)))

theorem inBody_eq (h : Alike (FieldRel home conv schemaFields) p p') : inBody p = inBody p' := by
  rw [inBody, inBody, getOrNull_eq h (by decide)]

/-! ## Responses -/

theorem header_follows (h : TypedRel home conv v w) :
    Follows (fun u u' => Agrees home conv u u' ∧ (v.str? = none → u.str? = none))
      (header v) (header w) := by
  refine .bind h.members fun p p' hp => .pure ⟨Alike.agrees ?_, fun _ => rfl⟩
  exact (Alike.present (.cons_named (by decide) (getOrNull_agrees hp "description") .nil)).append
    ((typeSchema_matching hp).unlessEmpty (by decide))

theorem headers_follows {x y : Option Value}
    (h : Option.Rel (Each fun _ => TypedRel home conv) x y) :
    Follows (Matching home conv) (headers x) (headers y) := by
  cases h with
  | none => exact .pure .nil
  | some h =>
    refine .bind h.members fun hs hs' hhs => ?_
    refine .bind (hhs.mapValues fun _ _ _ ht => header_follows ht) fun out out' hout => .pure ?_
    exact .cons_named (by decide) hout.agrees .nil

theorem responseMembers_follows (h : Alike (ResponseField home conv) r r') :
    Follows (Matching home conv) (responseMembers r) (responseMembers r') := by
  have agree : Matching home conv r r' := h.mono fun _ _ _ hf => hf.agrees
  have description : Agrees home conv ((r.get? "description").getD (.str ""))
      ((r'.get? "description").getD (.str "")) :=
    getD_rel (agree.get? "description") (agrees_scalar _)
  have schema : Matching home conv ((r.get? "schema").map content).toList
      ((r'.get? "schema").map content).toList :=
    matching_toList (agree.get? "schema") fun _ _ => content_matching
  rw [responseMembers, responseMembers, h.has]
  split
  · exact .pure agree
  · refine .bind (headers_follows (h.get? "headers")) fun hs hs' hhs =>
      .bind (agree.extensions fun _ _ _ ha => ha) fun es es' hes => .pure ?_
    exact ((Alike.cons_named (by decide) description schema).append hhs).append hes

theorem response_follows (h : ResponseRel home conv v w) :
    Follows (fun u u' => Agrees home conv u u' ∧ (v.str? = none → u.str? = none))
      (response v) (response w) := by
  cases h with
  | map h =>
    exact .bind (responseMembers_follows h) fun ms ms' hms => .pure ⟨hms.agrees, fun _ => rfl⟩
  | other hm hp =>
    cases v with
    | map => cases hm
    | _ => exact .pure ⟨agrees_self hp, id⟩

end ApiAccord.Swagger
