import ApiAccord.Proofs.Conversion.Parts

/-!
# Converted operations and path items

A reference to a shared parameter stays one, or becomes a reference to a shared body; another
parameter is converted, or becomes a body.  Either way the list of parameters is split alike on both
sides, if the converted document holds what the references ask for (`EntryRel`).  With the
same for shared responses, operations and path items that agree are converted into ones that agree.
-/

namespace ApiAccord.Swagger

open Reference

variable (home : String) (conv : Members) (names : List Scalar)

/-- A member list of one reference. -/
def refMembers (ref : String) : Members := [named "$ref" (.str ref)]

/-! ## Entries -/

/-- An entry of a list of parameters, before and after its reference is resolved.  `names` are those
of the shared bodies. -/
inductive EntryRel : Value → Value → Prop where
  | own {v w : Value} : TypedRel home conv v w → EntryRel v w
  | parameter {name : String} {p p' q : Members} : Alike (FieldRel home conv schemaFields) p p' →
      inBody p = false → names.any (Scalar.same (.str name)) = false →
      Swagger.parameter p = .ok q → Leads conv (parameterRef ++ name) (.map q) →
      EntryRel (.map (refMembers (parameterRef ++ name))) (.map p')
  | body {name : String} {p p' : Members} : Alike (FieldRel home conv schemaFields) p p' →
      inBody p = true → names.any (Scalar.same (.str name)) = true →
      Leads conv (bodyRef ++ name) (.map (Swagger.body p)) →
      EntryRel (.map (refMembers (parameterRef ++ name))) (.map p')

/-- The parameters of an operation or path item. -/
inductive EntriesRel : Value → Value → Prop where
  | list {items items' : List Value} : List.Forall₂ (EntryRel home conv names) items items' →
      EntriesRel (.list items) (.list items')
  | other {v : Value} : (∀ items, v ≠ .list items) → plain v = true → EntriesRel v v

/-- An entry of the responses of an operation, before and after its reference is resolved. -/
inductive ResponseEntryRel : Value → Value → Prop where
  | own {v w : Value} : ResponseRel home conv v w → ResponseEntryRel v w
  | shared {ref : String} {r r' q : Members} : Alike (ResponseField home conv) r r' →
      responseMembers r = .ok q → Leads conv ref (.map q) →
      ResponseEntryRel (.map (refMembers ref)) (.map r')

/-- Values under a key of operations. -/
def OperationField (k : Scalar) (v w : Value) : Prop :=
  if isOneOf ["parameters"] k then EntriesRel home conv names v w
  else if isOneOf ["responses"] k then Each (fun _ => ResponseEntryRel home conv) v w
  else Agrees home conv v w

/-- Values under a key of path items. -/
def PathField (k : Scalar) (v w : Value) : Prop :=
  if isOneOf ["parameters"] k then EntriesRel home conv names v w
  else if isOneOf methods k then Each (OperationField home conv names) v w
  else Agrees home conv v w

/-- Members that agree as mappings. -/
def MapAgrees (ms ms' : Members) : Prop := Agrees home conv (.map ms) (.map ms')

variable {home conv names} {ref name : String} {v w : Value} {ms ms' p p' q r r' : Members}
  {items items' rest : List Value}

theorem moveRefs_refMembers (ref : String) :
    moveRefs (.map (refMembers ref)) = .map (refMembers (movedRef ref)) := rfl

theorem agrees_of_leads (hl : Leads conv ref (.map q)) (h : Agrees home conv (.map q) w) :
    Agrees home conv (.map (refMembers ref)) w :=
  ⟨means_of_leads rfl hl h.means, h.isNull⟩

theorem plain_of_mem_items (h : plain v = true) (hi : v.items = .ok items) (hw : w ∈ items) :
    plain w = true := by
  have scalars {α : Type} (l : List α) (f : α → Scalar)
      (hl : l.map (fun a => .scalar (f a)) = items) : plain w = true := by
    obtain ⟨a, -, rfl⟩ := List.mem_map.1 (hl ▸ hw)
    rfl
  cases v with
  | scalar s =>
    cases s with
    | str s => exact scalars _ _ (Except.ok.inj hi)
    | bytes data => exact scalars _ _ (Except.ok.inj hi)
    | _ => cases hi
  | list => exact plain_list.1 h w (Except.ok.inj hi ▸ hw)
  | pair a b =>
    obtain ⟨ha, hb⟩ := Bool.and_eq_true_iff.1 h
    obtain rfl := Except.ok.inj hi
    simp only [List.mem_cons, List.not_mem_nil, or_false] at hw
    rcases hw with rfl | rfl
    · exact ha
    · exact hb
  | map => exact scalars _ _ (Except.ok.inj hi)
  | set => exact scalars _ _ (Except.ok.inj hi)

theorem EntriesRel.items_follow (h : EntriesRel home conv names v w) :
    Follows (List.Forall₂ (EntryRel home conv names)) v.items w.items := by
  cases h with
  | list h => exact .pure h
  | other _ hp =>
    exact .refl fun items hi => List.forall₂_same.2 fun u hu =>
      .own (Each.self (fun _ _ => fieldRel_self) (plain_of_mem_items hp hi hu))

/-! ## Parts without references -/

theorem entriesRel_self (h : plain v = true) : EntriesRel home conv names v v := by
  cases v with
  | list items =>
    refine .list (List.forall₂_same.2 fun v hv => .own (Each.self (fun _ _ => fieldRel_self) ?_))
    exact plain_list.1 h v hv
  | _ => exact .other nofun h

theorem operationField_self {k : Scalar} (h : plain v = true) :
    OperationField home conv names k v v := by
  unfold OperationField
  split
  · exact entriesRel_self h
  · split
    · exact Each.self (fun _ _ hv => .own (Each.self (fun _ _ => responseField_self) hv)) h
    · exact agrees_self h

theorem pathField_self {k : Scalar} (h : plain v = true) : PathField home conv names k v v := by
  unfold PathField
  split
  · exact entriesRel_self h
  · split
    · exact Each.self (fun _ _ => operationField_self) h
    · exact agrees_self h

/-! ## Lists of parameters -/

/-- What lists of parameters are split into. -/
def SplitRel (home : String) (conv : Members) (r r' : List Members × Option Members) : Prop :=
  List.Forall₂ (MapAgrees home conv) r.1 r'.1 ∧ Option.Rel (MapAgrees home conv) r.2 r'.2

theorem bodyRef?_eq_none (h : refText? p = none) : bodyRef? names p = none := by
  rw [bodyRef?, h]
  rfl

theorem refText?_eq_none_of_alike (h : Alike (FieldRel home conv schemaFields) p p') :
    refText? p' = none := by
  have own := refText?_eq_none h.isReference
  rwa [refText?, get?_eq h (by decide)] at own

theorem splitParameters_map (hb : bodyRef? names p = none) (rest : List Value) :
    splitParameters names (.map p :: rest) =
      if inBody p then do
        let r ← splitParameters names rest
        return (r.1, some (body p))
      else do
        let p ← parameter p
        let r ← splitParameters names rest
        return (p :: r.1, r.2) := by
  rw [splitParameters, hb]

theorem splitParameters_ref {ref : String} (hb : bodyRef? names p = some ref) (rest : List Value) :
    splitParameters names (.map p :: rest) = do
      let r ← splitParameters names rest
      return (r.1, some (refMembers ref)) := by
  rw [splitParameters, hb]
  rfl

theorem bodyRef?_refMembers : bodyRef? names (refMembers (parameterRef ++ name)) =
    if names.any (Scalar.same (.str name)) then some (bodyRef ++ name) else none := by
  have text : refText? (refMembers (parameterRef ++ name)) = some (parameterRef ++ name) := rfl
  have head : Text.stripHead? parameterRef (parameterRef ++ name) = some name :=
    Text.stripHead?_eq_some_iff.2 rfl
  simp only [bodyRef?, text, bind, Option.bind_some, head]

theorem inBody_refMembers : inBody (refMembers ref) = false := rfl

theorem parameter_refMembers : parameter (refMembers ref) = .ok (refMembers ref) := rfl

theorem splitParameters_follows (h : List.Forall₂ (EntryRel home conv names) items items') :
    Follows (SplitRel home conv) (splitParameters names items) (splitParameters names items') := by
  induction h with
  | nil => exact .pure ⟨.nil, .none⟩
  | @cons v w rest rest' hvw _ ih =>
    cases hvw with
    | own h =>
      cases h with
      | map h =>
        rw [splitParameters_map (bodyRef?_eq_none (refText?_eq_none h.isReference)),
          splitParameters_map (bodyRef?_eq_none (refText?_eq_none_of_alike h)), inBody_eq h]
        split
        · exact .bind ih fun r r' hr => .pure ⟨hr.1, .some (body_matching h).agrees⟩
        · exact .bind (parameter_follows h) fun q q' hq =>
            .bind ih fun r r' hr => .pure ⟨.cons hq.agrees hr.1, hr.2⟩
      | other hm _ =>
        cases v with
        | map => cases hm
        | _ => exact ih
    | @parameter name p p' q h hb hn hq hl =>
      have ref : bodyRef? names (refMembers (parameterRef ++ name)) = none := by
        rw [bodyRef?_refMembers, hn]
        rfl
      obtain ⟨q', hq', hqq⟩ := parameter_follows h q hq
      rw [splitParameters_map ref,
        splitParameters_map (bodyRef?_eq_none (refText?_eq_none_of_alike h)),
        ← inBody_eq h, hb, hq', inBody_refMembers, parameter_refMembers]
      have agree : MapAgrees home conv (refMembers (parameterRef ++ name)) q' :=
        agrees_of_leads hl hqq.agrees
      exact .bind (.pure agree) fun _ _ ha => .bind ih fun r r' hr => .pure ⟨.cons ha hr.1, hr.2⟩
    | @body name p p' h hb hn hl =>
      have ref : bodyRef? names (refMembers (parameterRef ++ name)) = some (bodyRef ++ name) := by
        rw [bodyRef?_refMembers, hn]
        rfl
      rw [splitParameters_ref ref,
        splitParameters_map (bodyRef?_eq_none (refText?_eq_none_of_alike h)),
        ← inBody_eq h, hb]
      exact .bind ih fun r r' hr =>
        .pure ⟨hr.1, .some (agrees_of_leads hl (body_matching h).agrees)⟩

/-! ## Operations -/

theorem responseEntry_follows (h : ResponseEntryRel home conv v w) :
    Follows (fun u u' => Agrees home conv u u' ∧ (v.str? = none → u.str? = none))
      (response v) (response w) := by
  cases h with
  | own h => exact response_follows h
  | shared h hq hl =>
    obtain ⟨q', hq', hqq⟩ := responseMembers_follows h _ hq
    rw [response, response, hq']
    exact .pure ⟨agrees_of_leads hl hqq.agrees, fun _ => rfl⟩

theorem isOneOf_singleton {k : Scalar} : isOneOf [name] k = (Value.scalar k).isText name := by
  simp [isOneOf]

theorem eq_of_isText {k : Scalar} (h : (Value.scalar k).isText name = true) : k = .str name := by
  rw [Value.isText, beq_iff_eq] at h
  cases k <;> cases h
  rfl

theorem eq_map_of_members (h : v.members = .ok ms) : v = .map ms := by
  cases v <;> cases h
  rfl

/-- What is taken over of a member of an operation: its responses converted, or all of it. -/
theorem operationMember_cases {m n : Scalar × Value} (h : operationMember m = .ok (some n)) :
    (m.1 = .str "responses" ∧ ∃ rs out, m.2 = .map rs ∧ mapValues response rs = .ok out ∧
      n = (m.1, .map out)) ∨
    (isOneOf ["parameters"] m.1 = false ∧ isOneOf ["responses"] m.1 = false ∧ n = m) := by
  simp only [isOneOf_singleton]
  unfold operationMember at h
  dsimp only at h
  split at h
  · cases h
  · next dropped =>
    split at h
    · next responses =>
      obtain ⟨rs, hrs, h⟩ := bind_eq_ok_iff.1 h
      obtain ⟨out, hout, h⟩ := bind_eq_ok_iff.1 h
      cases h
      exact .inl ⟨eq_of_isText responses, rs, out, eq_map_of_members hrs, hout, rfl⟩
    · next others =>
      cases h
      simp only [Bool.or_eq_true, not_or, Bool.not_eq_true] at dropped others
      exact .inr ⟨dropped.1.1.1, others, rfl⟩

theorem operationMember_follows {m m' : Scalar × Value}
    (h : MemberRel (OperationField home conv names) m m') :
    Follows (Option.Rel (MemberRel fun _ => Agrees home conv))
      (operationMember m) (operationMember m') := by
  obtain ⟨k, v⟩ := m
  obtain ⟨k', w⟩ := m'
  obtain rfl : k = k' := h.key
  have value := h.value
  simp only [OperationField, isOneOf_singleton] at value
  by_cases hp : (Value.scalar k).isText "parameters" = true
  · simp only [operationMember, hp, Bool.true_or, if_true]
    exact .pure .none
  · by_cases hr : (Value.scalar k).isText "responses" = true
    · rw [if_neg hp, if_pos hr] at value
      obtain rfl := eq_of_isText hr
      exact .bind value.members fun rs rs' hrs =>
        .bind (hrs.mapValues fun _ _ _ => responseEntry_follows) fun out out' hout =>
          .pure (.some ⟨rfl, hout.agrees, fun _ => rfl⟩)
    · rw [if_neg hp, if_neg hr] at value
      simp only [operationMember, hr, if_false, Bool.false_eq_true]
      split
      · exact .pure .none
      · exact .pure (.some ⟨rfl, value, h.noRef⟩)

theorem listOf_agrees {l l' : List Members} (h : List.Forall₂ (MapAgrees home conv) l l') :
    Agrees home conv (.list (l.map .map)) (.list (l'.map .map)) :=
  Agrees.list (List.forall₂_map_left_iff.2 (List.forall₂_map_right_iff.2 h))

theorem parameters_follow (h : Alike (OperationField home conv names) ms ms') :
    Follows (List.Forall₂ (EntryRel home conv names))
      ((ms.get? "parameters").getD (.list [])).items
      ((ms'.get? "parameters").getD (.list [])).items := by
  have entries : EntriesRel home conv names ((ms.get? "parameters").getD (.list []))
      ((ms'.get? "parameters").getD (.list [])) :=
    getD_rel (h.get? "parameters") (.list .nil)
  exact entries.items_follow

theorem operation_follows {shared shared' : Option Members}
    (hs : Option.Rel (MapAgrees home conv) shared shared')
    (h : Alike (OperationField home conv names) ms ms') :
    Follows (Matching home conv) (operation names shared ms) (operation names shared' ms') := by
  refine .bind (parameters_follow h) fun items items' hi =>
    .bind (splitParameters_follows hi) fun r r' hr =>
      .bind (follows_collect h fun _ _ => operationMember_follows) fun out out' hout => .pure ?_
  obtain ⟨ps, own⟩ := r
  obtain ⟨ps', own'⟩ := r'
  obtain ⟨hps, hown⟩ := hr
  have members : Matching home conv
      (if ps.isEmpty then out else Members.insert (.str "parameters") (.list (ps.map .map)) out)
      (if ps'.isEmpty then out' else
        Members.insert (.str "parameters") (.list (ps'.map .map)) out') := by
    have empty : ps.isEmpty = ps'.isEmpty := by cases hps <;> rfl
    rw [empty]
    split
    · exact hout
    · exact Alike.insert rfl (listOf_agrees hps) hout
  have body : Option.Rel (MapAgrees home conv) (own.or shared) (own'.or shared') := or_rel hown hs
  dsimp only
  generalize own.or shared = b, own'.or shared' = b' at body ⊢
  cases body with
  | none => exact members
  | some hb => exact Alike.insert rfl hb members

/-! ## Path items -/

theorem pathMember_operation {k : Scalar} (hm : isOneOf methods k = true) (shared : Option Members)
    (op : Members) : pathMember names shared (k, .map op) = do
      return some (k, .map (← operation names shared op)) := by
  rw [isOneOf] at hm
  simp only [pathMember, hm]

theorem pathMember_other {k : Scalar} (h : isOneOf methods k = false ∨ v.isMap = false)
    (shared : Option Members) : pathMember names shared (k, v) =
      if isRefKey k then pure (some (k, v))
      else do return if ← isExtension k then some (k, v) else none := by
  rw [pathMember]
  split
  · next hm hv =>
    dsimp only at hm hv
    rcases h with h | h
    · rw [isOneOf, hm] at h
      cases h
    · rw [hv] at h
      cases h
  · rfl

/-- What is taken over of a member of a path item: an operation converted, or all of it. -/
theorem pathMember_cases {shared : Option Members} {m n : Scalar × Value}
    (h : pathMember names shared m = .ok (some n)) :
    (isOneOf methods m.1 = true ∧ ∃ op out, m.2 = .map op ∧ operation names shared op = .ok out ∧
      n = (m.1, .map out)) ∨
    ((isOneOf methods m.1 = false ∨ m.2.isMap = false) ∧ isOneOf ["parameters"] m.1 = false ∧
      n = m) := by
  obtain ⟨k, v⟩ := m
  by_cases hm : isOneOf methods k = true ∧ v.isMap = true
  · obtain ⟨hm, hv⟩ := hm
    cases v with
    | map op =>
      rw [pathMember_operation hm] at h
      obtain ⟨out, hout, h⟩ := bind_eq_ok_iff.1 h
      cases h
      exact .inl ⟨hm, op, out, rfl, hout, rfl⟩
    | _ => cases hv
  · have other : isOneOf methods k = false ∨ v.isMap = false := by
      simpa only [not_and_or, Bool.not_eq_true] using hm
    refine .inr ⟨other, ?_⟩
    rw [pathMember_other other] at h
    -- The parameters of a path item are no member of it by themselves.
    cases hp : isOneOf ["parameters"] k with
    | true =>
      rw [isOneOf_singleton] at hp
      obtain rfl := eq_of_isText hp
      cases h
    | false =>
      refine ⟨rfl, ?_⟩
      split at h
      · cases h
        rfl
      · obtain ⟨x, -, h⟩ := bind_eq_ok_iff.1 h
        cases x <;> cases h
        rfl

theorem pathMember_follows {shared shared' : Option Members}
    (hs : Option.Rel (MapAgrees home conv) shared shared') {m m' : Scalar × Value}
    (h : MemberRel (PathField home conv names) m m') :
    Follows (Option.Rel (MemberRel fun _ => Agrees home conv))
      (pathMember names shared m) (pathMember names shared' m') := by
  obtain ⟨k, v⟩ := m
  obtain ⟨k', w⟩ := m'
  obtain rfl : k = k' := h.key
  have other (ha : Agrees home conv v w) (hv : isOneOf methods k = false ∨ v.isMap = false)
      (hw : isOneOf methods k = false ∨ w.isMap = false) :
      Follows (Option.Rel (MemberRel fun _ => Agrees home conv))
        (pathMember names shared (k, v)) (pathMember names shared' (k, w)) := by
    rw [pathMember_other hv, pathMember_other hw]
    split
    · exact .pure (.some ⟨rfl, ha, h.noRef⟩)
    · refine .bind (.refl (R := Eq) fun _ _ => rfl) fun b _ hb => .pure ?_
      subst hb
      cases b
      · exact .none
      · exact .some ⟨rfl, ha, h.noRef⟩
  have value := h.value
  simp only [PathField] at value
  by_cases hp : isOneOf ["parameters"] k = true
  · -- The parameters of a path item are no member of it by themselves.
    rw [isOneOf_singleton] at hp
    obtain rfl := eq_of_isText hp
    exact .pure .none
  · rw [if_neg hp] at value
    cases hm : isOneOf methods k with
    | false =>
      rw [hm] at value
      exact other value (.inl hm) (.inl hm)
    | true =>
      rw [if_pos hm] at value
      cases value with
      | map hop =>
        rw [pathMember_operation hm, pathMember_operation hm]
        exact .bind (operation_follows hs hop) fun out out' hout =>
          .pure (.some ⟨rfl, hout.agrees, fun _ => rfl⟩)
      | other hv hpl => exact other (agrees_self hpl) (.inr hv) (.inr hv)

theorem pathItem_follows (h : Alike (PathField home conv names) ms ms') :
    Follows (Matching home conv) (pathItem names ms) (pathItem names ms') := by
  have own := h.get? "parameters"
  rw [pathItem, pathItem]
  generalize ms.get? "parameters" = x, ms'.get? "parameters" = y at own ⊢
  have rest : Follows (Matching home conv) (collect (pathMember names none) ms)
      (collect (pathMember names none) ms') :=
    follows_collect h fun _ _ => pathMember_follows .none
  cases own with
  | none => exact rest
  | @some v w hv =>
    have entries : EntriesRel home conv names v w := hv
    cases entries with
    | list hi =>
      refine .bind (splitParameters_follows hi) fun r r' hr =>
        .bind (follows_collect h fun _ _ => pathMember_follows hr.2) fun out out' hout => .pure ?_
      exact .cons_named (by decide) (listOf_agrees hr.1) hout
    | other hl _ =>
      cases v with
      | list items => exact absurd rfl (hl items)
      | _ => exact rest

theorem path_follows {m m' : Scalar × Value}
    (h : MemberRel (fun _ => Each (PathField home conv names)) m m') :
    Follows (Option.Rel (MemberRel fun _ => Agrees home conv)) (path names m) (path names m') := by
  obtain ⟨k, v⟩ := m
  obtain ⟨k', w⟩ := m'
  obtain rfl : k = k' := h.key
  cases (h.value : Each (PathField home conv names) v w) with
  | map hms =>
    exact .bind (pathItem_follows hms) fun out out' hout =>
      .pure (.some ⟨rfl, hout.agrees, fun _ => rfl⟩)
  | other hm _ =>
    cases v with
    | map => cases hm
    | _ => exact .pure .none

end ApiAccord.Swagger
