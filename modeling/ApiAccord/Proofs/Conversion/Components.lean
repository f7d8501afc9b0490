import ApiAccord.Proofs.Conversion.Moving
import ApiAccord.Proofs.Conversion.Operations

/-!
# Where converted shared parts are

What a converted document holds for the references into it: the definitions as they are, and every
shared parameter and response converted, under its name (`Supplies`).
-/

namespace ApiAccord.Swagger

open Reference

variable {home name rest : String} {doc conv shared ms ns out p : Members} {v w t : Value}

/-! ## Members of lists of members -/

theorem get?_append (ms ns : Members) (name : String) :
    Members.get? name (ms ++ ns) = (ms.get? name).or (ns.get? name) := by
  induction ms with
  | nil => rfl
  | cons m rest ih =>
    obtain ⟨k, v⟩ := m
    cases k with
    | str s =>
      rw [List.cons_append, Members.get?, Members.get?, ih]
      split <;> rfl
    | _ => exact ih

theorem get?_unlessEmpty (hn : ms ≠ []) :
    Members.get? name (unlessEmpty name ms) = some (.map ms) := by
  have ne : ms.isEmpty = false := List.isEmpty_eq_false_iff.2 hn
  rw [unlessEmpty, ne]
  exact if_pos (beq_self_eq_true name)

theorem get?_unlessEmpty_of_ne {name' : String} (hn : name' ≠ name) :
    Members.get? name (unlessEmpty name' ms) = none := by
  rw [unlessEmpty]
  split
  · rfl
  · exact if_neg (by simpa using hn)

theorem ne_nil_of_get? (h : ms.get? name = some v) : ms ≠ [] := by
  rintro rfl
  cases h

/-! ## Members that are collected -/

section Collecting

variable {ε α β : Type} {f : α → Except ε (Option β)} {a : α} {b : β} {l : List α} {l' : List β}

theorem collect_cons_eq_ok_iff : collect f (a :: l) = .ok l' ↔
    ∃ x bs, f a = .ok x ∧ collect f l = .ok bs ∧ l' = x.toList ++ bs := by
  rw [collect]
  constructor
  · intro h
    obtain ⟨x, hx, h⟩ := bind_eq_ok_iff.1 h
    obtain ⟨bs, hbs, h⟩ := bind_eq_ok_iff.1 h
    exact ⟨x, bs, hx, hbs, (Except.ok.inj h).symm⟩
  · rintro ⟨x, bs, hx, hbs, rfl⟩
    rw [hx, hbs]
    rfl

theorem exists_of_mem_collect (h : collect f l = .ok l') (hb : b ∈ l') :
    ∃ a ∈ l, f a = .ok (some b) := by
  induction l generalizing l' with
  | nil =>
    obtain rfl := Except.ok.inj h
    cases hb
  | cons a rest ih =>
    obtain ⟨x, bs, hx, hbs, rfl⟩ := collect_cons_eq_ok_iff.1 h
    rcases List.mem_append.1 hb with hb | hb
    · obtain rfl := Option.mem_toList.1 hb
      exact ⟨a, List.mem_cons_self, hx⟩
    · obtain ⟨c, hc, hf⟩ := ih hbs hb
      exact ⟨c, List.mem_cons_of_mem _ hc, hf⟩

theorem exists_of_collect (h : collect f l = .ok l') (ha : a ∈ l) : ∃ x, f a = .ok x := by
  induction l generalizing l' with
  | nil => cases ha
  | cons a' rest ih =>
    obtain ⟨x, bs, hx, hbs, -⟩ := collect_cons_eq_ok_iff.1 h
    rcases List.mem_cons.1 ha with rfl | ha
    · exact ⟨x, hx⟩
    · exact ih hbs ha

theorem exists_collect_iff : (∃ l', collect f l = .ok l') ↔ ∀ a ∈ l, ∃ x, f a = .ok x := by
  constructor
  · rintro ⟨l', h⟩ a ha
    exact exists_of_collect h ha
  · intro h
    induction l with
    | nil => exact ⟨[], rfl⟩
    | cons a rest ih =>
      obtain ⟨x, hx⟩ := h a List.mem_cons_self
      obtain ⟨xs, hxs⟩ := ih fun a ha => h a (List.mem_cons_of_mem _ ha)
      exact ⟨_, collect_cons_eq_ok_iff.2 ⟨x, xs, hx, hxs, rfl⟩⟩

/-- What is picked from a list, and from what is collected of it. -/
theorem forall₂_filterMap_collect {γ δ : Type} {g : α → Option γ} {g' : β → Option δ}
    {R : γ → δ → Prop} (h : collect f l = .ok l')
    (hr : ∀ a x, f a = .ok x → Option.Rel R (g a) (x.bind g')) :
    List.Forall₂ R (l.filterMap g) (l'.filterMap g') := by
  induction l generalizing l' with
  | nil =>
    obtain rfl := Except.ok.inj h
    exact .nil
  | cons a rest ih =>
    obtain ⟨x, xs, hx, hxs, rfl⟩ := collect_cons_eq_ok_iff.1 h
    have first := hr a x hx
    rw [List.filterMap_cons, List.filterMap_append]
    have single : x.toList.filterMap g' = (x.bind g').toList := by
      cases x with
      | none => rfl
      | some b => cases hb : g' b <;> simp [hb]
    rw [single]
    generalize g a = y, x.bind g' = z at first
    cases first with
    | none => exact ih hxs
    | some hyz => exact .cons hyz (ih hxs)

end Collecting

/-! ## Shared parts -/

theorem get?_sharedParameters {wanted : Members → Bool} {f : Members → Except Malformed Members}
    (h : sharedParameters wanted f ms = .ok out) (hg : ms.get? name = some (.map p))
    (hw : wanted p = true) : ∃ q, f p = .ok q ∧ out.get? name = some (.map q) := by
  unfold sharedParameters at h
  induction ms generalizing out with
  | nil => cases hg
  | cons m rest ih =>
    obtain ⟨k, v⟩ := m
    obtain ⟨b, bs, hb, hbs, rfl⟩ := collect_cons_eq_ok_iff.1 h
    obtain ⟨p', hp', hb⟩ := bind_eq_ok_iff.1 hb
    by_cases hk : k = .str name
    · obtain rfl := hk
      obtain rfl : v = .map p := Option.some.inj ((if_pos (beq_self_eq_true name)).symm.trans hg)
      obtain rfl := Except.ok.inj hp'
      rw [if_pos hw] at hb
      obtain ⟨q, hq, hb⟩ := bind_eq_ok_iff.1 hb
      obtain rfl := Except.ok.inj hb
      exact ⟨q, hq, if_pos (beq_self_eq_true name)⟩
    · rw [Members.get?_cons_of_ne hk] at hg
      obtain ⟨q, hq, hout⟩ := ih hbs hg
      refine ⟨q, hq, ?_⟩
      split at hb
      · obtain ⟨q', -, hb⟩ := bind_eq_ok_iff.1 hb
        obtain rfl := Except.ok.inj hb
        exact (Members.get?_cons_of_ne hk bs).trans hout
      · obtain rfl := Except.ok.inj hb
        exact hout

theorem mapValues_rel {f : Value → Except Malformed Value} (h : mapValues f ms = .ok out) :
    Members.Rel (fun _ v w => f v = .ok w) ms out :=
  (forall₂_of_mapM h).imp fun m n hn => by
    obtain ⟨w, hw, hn⟩ := bind_eq_ok_iff.1 hn
    obtain rfl := Except.ok.inj hn
    exact ⟨rfl, hw⟩

theorem get?_mapValues {f : Value → Except Malformed Value} (h : mapValues f ms = .ok out)
    (hg : ms.get? name = some v) : ∃ w, f v = .ok w ∧ out.get? name = some w := by
  have found := (mapValues_rel h).get? name
  rw [hg] at found
  generalize out.get? name = x at found
  cases found with
  | some hw => exact ⟨_, hw, rfl⟩

/-! ## Names of shared bodies -/

/-- A name is among those of the bodies if the shared parameter under it is a body. -/
theorem any_bodyNames (distinct : ms.Pairwise fun m n => m.1.same n.1 = false)
    (hv : ms.get? name = some (.map p)) :
    (bodyNames ms).any (Scalar.same (.str name)) = inBody p := by
  rw [Bool.eq_iff_iff, List.any_eq_true]
  constructor
  · rintro ⟨k, hk, hs⟩
    obtain rfl := Scalar.same_str_iff.1 hs
    obtain ⟨⟨k, u⟩, hm, hb⟩ := List.mem_filterMap.1 hk
    dsimp only at hb
    split at hb
    · next q =>
      split at hb
      · next hq =>
        obtain rfl := Option.some.inj hb
        have same := hv.symm.trans (Members.get?_eq_of_mem distinct hm)
        obtain rfl := Value.map.inj (Option.some.inj same)
        exact hq
      · cases hb
    · cases hb
  · intro hb
    refine ⟨.str name, List.mem_filterMap.2 ⟨_, Members.mem_of_get? hv, ?_⟩,
      Scalar.same_str_iff.2 rfl⟩
    exact if_pos hb

/-! ## The components of a converted document -/

/-- What the components of a converted document hold: of which sections, and under which names. -/
structure Supplies (doc conv : Members) : Prop where
  parameters : ∀ u, doc.get? "parameters" = some u → u.truthy = true → u.isMap = true
  isMap : ∀ name (shared : Members) v, doc.get? "parameters" = some (.map shared) →
    shared.get? name = some v → v.isMap = true
  responses : ∀ u, doc.get? "responses" = some u → u.truthy = true → u.isMap = true
  schema : ∀ rest u t, doc.get? "definitions" = some u →
    Pointer.walk "" (segmentsOf rest) u = .ok t →
      Leads conv ("#/components/schemas/" ++ rest) t
  parameter : ∀ name (shared p : Members), doc.get? "parameters" = some (.map shared) →
    '/' ∉ name.toList → shared.get? (Pointer.unescape name) = some (.map p) → inBody p = false →
      ∃ q, Swagger.parameter p = .ok q ∧ Leads conv (parameterRef ++ name) (.map q)
  body : ∀ name (shared p : Members), doc.get? "parameters" = some (.map shared) →
    '/' ∉ name.toList → shared.get? (Pointer.unescape name) = some (.map p) → inBody p = true →
      Leads conv (bodyRef ++ name) (.map (Swagger.body p))
  response : ∀ name (rs : Members) v, doc.get? "responses" = some (.map rs) →
    '/' ∉ name.toList → rs.get? (Pointer.unescape name) = some v →
      ∃ w, Swagger.response v = .ok w ∧ Leads conv ("#/components/responses/" ++ name) w

/-- The components are found in the document. -/
theorem get?_components {version : String} (h : assemble version doc = .ok conv) :
    ∃ comps, components doc = .ok comps ∧
      (comps ≠ [] → conv.get? "components" = some (.map comps)) := by
  unfold assemble at h
  obtain ⟨served, -, h⟩ := bind_eq_ok_iff.1 h
  obtain ⟨_, -, h⟩ := bind_eq_ok_iff.1 h
  obtain ⟨_, -, h⟩ := bind_eq_ok_iff.1 h
  obtain ⟨paths, -, h⟩ := bind_eq_ok_iff.1 h
  obtain ⟨comps, hc, h⟩ := bind_eq_ok_iff.1 h
  obtain rfl := Except.ok.inj h
  refine ⟨comps, hc, fun hn => ?_⟩
  have servers : Members.get? "components"
      (if served.isEmpty then [] else [named "servers" (.list served)]) = none := by
    split <;> rfl
  rw [get?_append, get?_append, get?_append, get?_append, servers, get?_unlessEmpty hn]
  rfl

theorem section?_eq (hg : doc.get? name = some v)
    (ht : v.truthy = true) : section? doc name = some v := by
  rw [section?, hg, Value.ifTruthy, if_pos ht]

theorem truthy_map (hn : ms ≠ []) : (Value.map ms).truthy = true := by
  rw [Value.truthy, List.isEmpty_eq_false_iff.2 hn]
  rfl

theorem truthy_of_down {segment : String} (h : Pointer.Down segment v w) : v.truthy = true := by
  cases h with
  | member hg => exact truthy_map (ne_nil_of_get? hg)
  | item hi =>
    obtain ⟨i, -, hi⟩ := Option.bind_eq_some_iff.1 hi
    have ne := List.ne_nil_of_mem (Pointer.mem_of_itemAt? hi)
    rw [Value.truthy, List.isEmpty_eq_false_iff.2 ne]
    rfl

theorem truthy_of_walk (h : Pointer.walk "" (segmentsOf rest) v = .ok w) : v.truthy = true := by
  have ne : segmentsOf rest ≠ [] := by
    simpa [segmentsOf, Text.splitOn] using Text.Chars.splitOn_ne_nil rest.toList
  obtain ⟨segment, segments, hs⟩ := List.exists_cons_of_ne_nil ne
  rw [hs] at h
  obtain ⟨u, hu, -⟩ := Pointer.walk_cons_eq_ok_iff.1 h
  exact truthy_of_down hu

/-- The parts that the components are put together from. -/
theorem get?_schemas (x : Option Value) (hn : name ≠ "schemas") :
    Members.get? name (x.map (named "schemas")).toList = none := by
  cases x with
  | none => rfl
  | some v => exact if_neg (by simpa using hn.symm)

/-- The parts of the components, each under its name if there is anything in it. -/
theorem components_parts {comps : Members} (h : components doc = .ok comps) :
    ∃ shared ps bs rs, sectionMembers doc "parameters" = .ok shared ∧
      sharedParameters (!inBody ·) parameter shared = .ok ps ∧
      sharedParameters inBody (fun p => .ok (body p)) shared = .ok bs ∧
      sharedSection doc "responses" "responses" response = .ok rs ∧
      (∀ v, section? doc "definitions" = some v → comps.get? "schemas" = some v) ∧
      (ps ≠ [] → comps.get? "parameters" = some (.map ps)) ∧
      (bs ≠ [] → comps.get? "requestBodies" = some (.map bs)) ∧
      ∀ v, rs.get? "responses" = some v → comps.get? "responses" = some v := by
  unfold components at h
  obtain ⟨shared, hs, h⟩ := bind_eq_ok_iff.1 h
  obtain ⟨ps, hps, h⟩ := bind_eq_ok_iff.1 h
  obtain ⟨bs, hbs, h⟩ := bind_eq_ok_iff.1 h
  obtain ⟨rs, hrs, h⟩ := bind_eq_ok_iff.1 h
  obtain ⟨ss, -, h⟩ := bind_eq_ok_iff.1 h
  obtain rfl := Except.ok.inj h
  simp only [List.append_assoc]
  refine ⟨shared, ps, bs, rs, hs, hps, hbs, hrs, fun v hv => ?schemas, fun hn => ?parameters,
    fun hn => ?bodies, fun v hv => ?responses⟩
  case schemas =>
    rw [get?_append, hv]
    rfl
  case parameters =>
    rw [get?_append, get?_schemas _ (by decide), get?_append, get?_unlessEmpty hn]
    rfl
  case bodies =>
    rw [get?_append, get?_schemas _ (by decide), get?_append, get?_unlessEmpty_of_ne (by decide),
      get?_append, get?_unlessEmpty hn]
    rfl
  case responses =>
    rw [get?_append, get?_schemas _ (by decide), get?_append, get?_unlessEmpty_of_ne (by decide),
      get?_append, get?_unlessEmpty_of_ne (by decide), get?_append, hv]
    rfl

theorem walk_single (hn : '/' ∉ name.toList) (hg : ms.get? (Pointer.unescape name) = some v) :
    Pointer.walk "" (segmentsOf name) (.map ms) = .ok v := by
  rw [segmentsOf_single hn]
  exact walk_member_iff.2 ⟨v, hg, rfl⟩

/-- A converted document supplies what the references into its components ask for. -/
theorem supplies_of_assemble {version : String} (h : assemble version doc = .ok conv) :
    Supplies doc conv := by
  obtain ⟨comps, hc, found⟩ := get?_components h
  obtain ⟨shared, ps, bs, rs, hs, hps, hbs, hrs, schemas, parameters, bodies, responses⟩ :=
    components_parts hc
  have place (part : String) (u : Value) (hg : comps.get? part = some u) :
      conv.get? "components" = some (.map comps) := found (ne_nil_of_get? hg)
  have params (ms : Members) (name : String) (v : Value)
      (hd : doc.get? "parameters" = some (.map ms)) (hg : ms.get? name = some v) : shared = ms := by
    rw [sectionMembers, section?_eq hd (truthy_map (ne_nil_of_get? hg))] at hs
    exact (Except.ok.inj hs).symm
  refine ⟨fun u hd ht => ?parameters, fun name ms v hd hg => ?isMap,
    fun u hd ht => ?responses, fun rest u t hd hw => ?schema,
    fun name ms p hd hn hg hb => ?parameter, fun name ms p hd hn hg hb => ?body,
    fun name ms v hd hn hg => ?response⟩
  case parameters =>
    rw [sectionMembers, section?_eq hd ht] at hs
    exact eq_map_of_members hs ▸ rfl
  case isMap =>
    obtain rfl := params ms _ _ hd hg
    obtain ⟨x, hx⟩ := exists_of_collect hps (Members.mem_of_get? hg)
    obtain ⟨p, hp, -⟩ := bind_eq_ok_iff.1 hx
    obtain rfl : v = .map p := eq_map_of_members hp
    rfl
  case responses =>
    rw [sharedSection, section?_eq hd ht] at hrs
    obtain ⟨_, hms, -⟩ := bind_eq_ok_iff.1 hrs
    exact eq_map_of_members hms ▸ rfl
  case schema =>
    have part := schemas u (section?_eq hd (truthy_of_walk hw))
    exact leads_component (by rfl) (by decide) (by decide) (place _ _ part) part hw
  case parameter =>
    obtain rfl := params ms _ _ hd hg
    obtain ⟨q, hq, hout⟩ := get?_sharedParameters hps hg (by rw [hb]; rfl)
    have part := parameters (ne_nil_of_get? hout)
    exact ⟨q, hq, leads_component (by rfl) (by decide) (by decide) (place _ _ part) part
      (walk_single hn hout)⟩
  case body =>
    obtain rfl := params ms _ _ hd hg
    obtain ⟨q, hq, hout⟩ := get?_sharedParameters hbs hg hb
    obtain rfl := Except.ok.inj hq
    have part := bodies (ne_nil_of_get? hout)
    exact leads_component (by rfl) (by decide) (by decide) (place _ _ part) part
      (walk_single hn hout)
  case response =>
    rw [sharedSection, section?_eq hd (truthy_map (ne_nil_of_get? hg))] at hrs
    obtain ⟨_, hms, hrs⟩ := bind_eq_ok_iff.1 hrs
    obtain rfl := Except.ok.inj hms
    obtain ⟨out, hout, hrs⟩ := bind_eq_ok_iff.1 hrs
    obtain rfl := Except.ok.inj hrs
    obtain ⟨w, hw, hget⟩ := get?_mapValues hout hg
    have part := responses (.map out) rfl
    exact ⟨w, hw, leads_component (by rfl) (by decide) (by decide) (place _ _ part) part
      (walk_single hn hget)⟩

end ApiAccord.Swagger
