import ApiAccord.Proofs.Conversion.Documents
import ApiAccord.Proofs.Conversion.Light

/-!
# Converting documents that are split over several files

The conversion takes place before references are followed.  So a parameter or response in another
file is read as it is there, but one in the document itself is read after its conversion.  Where
that makes no difference (`LightParameter`, `LightResponse`), a document with a reference to such a
mapping and one with the mapping in its place are converted alike (`convert_together`).
-/

namespace ApiAccord.Swagger

open Reference OperationReading

/-! ## Parts that are read alike -/

/-- The same mapping, of a kind. -/
def Unchanged (Kind : Members → Prop) (obj obj' : Members) : Prop := obj' = obj ∧ Kind obj

/-- Before the conversion: references or the mappings that they lead to. -/
abbrev BeforeParameter (leads : String → Members → Prop) : Value → Value → Prop :=
  Swap leads (Unchanged LightParameter)

abbrev BeforeResponse (leads : String → Members → Prop) : Value → Value → Prop :=
  Swap leads (Unchanged LightResponse)

/-- After the conversion: references or what the mappings that they lead to are converted into. -/
abbrev AfterParameter (leads : String → Members → Prop) : Value → Value → Prop :=
  Swap leads (Becomes parameter ParameterAlike)

abbrev AfterResponse (leads : String → Members → Prop) : Value → Value → Prop :=
  Swap leads (Becomes responseMembers ResponseAlike)

/-- Only references into other documents lead to mappings. -/
def Outward (leads : String → Members → Prop) : Prop :=
  ∀ ref obj, leads ref obj → Text.stripHead? "#" ref = none

variable {leads : String → Members → Prop} {names : List Scalar} {shared : Option Members}
  {ref name : String} {k : Scalar} {v w : Value} {p ms ms' op op' item item' doc doc' : Members}
  {items items' : List Value} {P Q : Value → Value → Prop} {R S : Scalar → Value → Value → Prop}

/-! ## Moved references -/

theorem startsWith_eq_false_of_outward (h : Text.stripHead? "#" ref = none) {head : String}
    (rest : String) (hh : head = "#" ++ rest) : Text.startsWith head ref = false := by
  rw [← Bool.not_eq_true, Text.startsWith_eq_true_iff]
  rintro ⟨tail, rfl⟩
  have own : Text.stripHead? "#" (head ++ tail) = some (rest ++ tail) :=
    Text.stripHead?_eq_some_iff.2 (by rw [hh, String.append_assoc])
  cases h.symm.trans own

theorem movedRef_of_outward (h : Text.stripHead? "#" ref = none) : movedRef ref = ref := by
  have none : refHeads.find? (fun h => Text.startsWith h.1 ref) = none := by
    refine List.find?_eq_none.2 fun head hm => ?_
    simp only [refHeads, List.mem_cons, List.not_mem_nil, or_false] at hm
    rw [Bool.not_eq_true]
    rcases hm with rfl | rfl | rfl
    · exact startsWith_eq_false_of_outward h "/definitions/" rfl
    · exact startsWith_eq_false_of_outward h "/parameters/" rfl
    · exact startsWith_eq_false_of_outward h "/responses/" rfl
  rw [movedRef, none]

theorem bodyRef?_of_outward (h : Text.stripHead? "#" ref = none) :
    bodyRef? names (refMembers ref) = none := by
  have head : Text.stripHead? parameterRef ref = none := by
    by_contra some
    obtain ⟨rest, hs⟩ := Option.ne_none_iff_exists'.1 some
    have starts : Text.startsWith parameterRef ref = true :=
      Text.startsWith_eq_true_iff.2 ⟨rest, Text.stripHead?_eq_some_iff.1 hs⟩
    have ends : Text.startsWith parameterRef ref = false :=
      startsWith_eq_false_of_outward h "/components/parameters/" rfl
    cases starts.symm.trans ends
  have text : refText? (refMembers ref) = some ref := rfl
  simp only [bodyRef?, text, head, bind, Option.bind_some, Option.bind_none]

/-- Values are moved in the same way under any key, unless they are texts. -/
theorem moveMember_rel (hP : ∀ v, P v v) (texts : v = w ∨ v.str? = none ∧ w.str? = none)
    (h : P (moveRefs v) (moveRefs w)) : P (moveMember (k, v)).2 (moveMember (k, w)).2 := by
  rcases texts with rfl | ⟨hv, hw⟩
  · exact hP _
  · rw [moveMember_of_str?_eq_none fun _ => hv, moveMember_of_str?_eq_none fun _ => hw]
    exact h

theorem moveRefsOfMembers_rel (h : Members.Rel R ms ms')
    (hs : ∀ k v w, R k v w → S k (moveMember (k, v)).2 (moveMember (k, w)).2) :
    Members.Rel S (moveRefsOfMembers ms) (moveRefsOfMembers ms') := by
  rw [moveRefsOfMembers_eq, moveRefsOfMembers_eq]
  refine List.forall₂_map_left_iff.2 (List.forall₂_map_right_iff.2 (h.imp ?_))
  rintro ⟨k, v⟩ ⟨k', w⟩ ⟨hk, hr⟩
  obtain rfl : k = k' := hk
  exact ⟨rfl, hs k v w hr⟩

theorem moveRefs_similar (h : Similar R v w)
    (hs : ∀ k v w, R k v w → S k (moveMember (k, v)).2 (moveMember (k, w)).2) :
    Similar S (moveRefs v) (moveRefs w) := by
  cases h with
  | same => exact .same _
  | map h => exact .map (moveRefsOfMembers_rel h hs)

theorem moveRefs_listed (h : Listed P v w) (hP : ∀ v w, P v w → P (moveRefs v) (moveRefs w)) :
    Listed P (moveRefs v) (moveRefs w) := by
  cases h with
  | same => exact .same _
  | list h =>
    rw [moveRefs_list, moveRefs_list]
    exact .list (List.forall₂_map_left_iff.2 (List.forall₂_map_right_iff.2 (h.imp hP)))

theorem moveRefs_swap {Kind : Members → Prop} (outward : Outward leads)
    (plain : ∀ obj, Kind obj → plain (.map obj) = true) (h : Swap leads (Unchanged Kind) v w) :
    Swap leads (Unchanged Kind) (moveRefs v) (moveRefs w) := by
  cases h with
  | same => exact .same _
  | put hl hk =>
    obtain ⟨rfl, hk⟩ := hk
    rw [moveRefs_refMembers, movedRef_of_outward (outward _ _ hl), moveRefs_of_plain (plain _ hk)]
    exact .put hl ⟨rfl, hk⟩

theorem texts_of_similar (h : Similar R v w) : v = w ∨ v.str? = none ∧ w.str? = none := by
  cases h with
  | same => exact .inl rfl
  | map => exact .inr ⟨rfl, rfl⟩

theorem texts_of_listed (h : Listed P v w) : v = w ∨ v.str? = none ∧ w.str? = none := by
  cases h with
  | same => exact .inl rfl
  | list => exact .inr ⟨rfl, rfl⟩

theorem texts_of_swap {T : Members → Members → Prop} (h : Swap leads T v w) :
    v = w ∨ v.str? = none ∧ w.str? = none := by
  cases h with
  | same => exact .inl rfl
  | put => exact .inr ⟨rfl, rfl⟩

section Moving

variable (outward : Outward leads)

include outward

theorem moveMember_operation
    (h : LikeOperation (BeforeParameter leads) (BeforeResponse leads) k v w) :
    LikeOperation (BeforeParameter leads) (BeforeResponse leads) k
      (moveMember (k, v)).2 (moveMember (k, w)).2 := by
  unfold LikeOperation at h ⊢
  split
  · next hp =>
    rw [if_pos hp] at h
    exact moveMember_rel .same (texts_of_listed h) (moveRefs_listed h fun _ _ =>
      moveRefs_swap outward fun _ => LightParameter.plain)
  · next hp =>
    rw [if_neg hp] at h
    split
    · next hr =>
      rw [if_pos hr] at h
      refine moveMember_rel .same (texts_of_similar h) (moveRefs_similar h fun k v w hs => ?_)
      exact moveMember_rel .same (texts_of_swap hs)
        (moveRefs_swap outward (fun _ => LightResponse.plain) hs)
    · next hr =>
      rw [if_neg hr] at h
      rw [h]

theorem moveMember_item (h : LikeItem (BeforeParameter leads) (BeforeResponse leads) k v w) :
    LikeItem (BeforeParameter leads) (BeforeResponse leads) k
      (moveMember (k, v)).2 (moveMember (k, w)).2 := by
  unfold LikeItem at h ⊢
  split
  · next hp =>
    rw [if_pos hp] at h
    exact moveMember_rel .same (texts_of_listed h) (moveRefs_listed h fun _ _ =>
      moveRefs_swap outward fun _ => LightParameter.plain)
  · next hp =>
    rw [if_neg hp] at h
    split
    · next hm =>
      rw [if_pos hm] at h
      exact moveMember_rel .same (texts_of_similar h)
        (moveRefs_similar h fun _ _ _ => moveMember_operation outward)
    · next hm =>
      rw [if_neg hm] at h
      rw [h]

theorem moveMember_document
    (h : LikeDocument (BeforeParameter leads) (BeforeResponse leads) k v w) :
    LikeDocument (BeforeParameter leads) (BeforeResponse leads) k
      (moveMember (k, v)).2 (moveMember (k, w)).2 := by
  unfold LikeDocument at h ⊢
  split
  · next hp =>
    rw [if_pos hp] at h
    refine moveMember_rel .same (texts_of_similar h) (moveRefs_similar h fun k v w hs => ?_)
    exact moveMember_rel .same (texts_of_similar hs)
      (moveRefs_similar hs fun _ _ _ => moveMember_item outward)
  · next hp =>
    rw [if_neg hp] at h
    rw [h]

end Moving

/-! ## Lists of parameters -/

/-- What lists of parameters are split into: parameters in step, and the same body. -/
def SplitAlike (leads : String → Members → Prop) (r r' : List Members × Option Members) : Prop :=
  List.Forall₂ (fun p p' => AfterParameter leads (.map p) (.map p')) r.1 r'.1 ∧ r.2 = r'.2

theorem splitParameters_together (outward : Outward leads)
    (h : List.Forall₂ (BeforeParameter leads) items items') :
    Together (SplitAlike leads) (splitParameters names items) (splitParameters names items') := by
  induction h with
  | nil => exact .pure ⟨.nil, rfl⟩
  | @cons v w rest rest' hv _ ih =>
    cases hv with
    | same =>
      cases v with
      | map p =>
        cases hb : bodyRef? names p with
        | some ref =>
          rw [splitParameters_ref hb, splitParameters_ref hb]
          exact .bind ih fun r r' hr => .pure ⟨hr.1, rfl⟩
        | none =>
          rw [splitParameters_map hb, splitParameters_map hb]
          split
          · exact .bind ih fun r r' hr => .pure ⟨hr.1, rfl⟩
          · exact .bind_same fun q =>
              .bind ih fun r r' hr => .pure ⟨.cons (.same _) hr.1, hr.2⟩
      | _ => exact ih
    | @put ref _ obj hl hk =>
      obtain ⟨rfl, light⟩ := hk
      obtain ⟨q, becomes⟩ := light.becomes
      have noText : refText? obj = none := refText?_eq_none (plain_map.1 light.plain).1
      rw [splitParameters_map (bodyRef?_of_outward (outward _ _ hl)),
        splitParameters_map (bodyRef?_eq_none noText), inBody_refMembers, light.outside,
        parameter_refMembers, becomes.converted]
      have after : AfterParameter leads (.map (refMembers ref)) (.map q) := .put hl becomes
      exact .bind (.pure after) fun _ _ ha => .bind ih fun r r' hr => .pure ⟨.cons ha hr.1, hr.2⟩

/-! ## Operations -/

theorem together_collect {α β γ δ ε : Type} {T : α → β → Prop} {S : γ → δ → Prop}
    {f : α → Except ε (Option γ)} {g : β → Except ε (Option δ)} {l : List α} {l' : List β}
    (h : List.Forall₂ T l l') (hf : ∀ a b, T a b → Together (Option.Rel S) (f a) (g b)) :
    Together (List.Forall₂ S) (collect f l) (collect g l') := by
  induction h with
  | nil => exact .pure .nil
  | cons hab _ ih =>
    refine .bind (hf _ _ hab) fun c d hcd => .bind ih fun cs ds hcs => .pure ?_
    cases hcd with
    | none => exact hcs
    | some hcd => exact .cons hcd hcs

/-- One member of each mapping, under the same key. -/
abbrev OneAlike (R : Scalar → Value → Value → Prop) (m m' : Scalar × Value) : Prop :=
  m.1 = m'.1 ∧ R m.1 m.2 m'.2

/-- A member that is set on both sides. -/
theorem insert_rel (h : Members.Rel R ms ms') (hr : R (.str name) v w) :
    Members.Rel R (Members.insert (.str name) v ms) (Members.insert (.str name) w ms') := by
  induction h with
  | nil => exact .cons ⟨rfl, hr⟩ .nil
  | @cons m m' rest rest' hm ht ih =>
    obtain ⟨k, u⟩ := m
    obtain ⟨k', u'⟩ := m'
    obtain rfl : k = k' := hm.1
    rw [Members.insert, Members.insert]
    split
    · next hk => exact .cons ⟨rfl, (Scalar.same_name_iff.1 hk).symm ▸ hr⟩ ht
    · exact .cons hm ih

/-- Members of converted operations, path items and documents. -/
abbrev AfterOperation (leads : String → Members → Prop) : Scalar → Value → Value → Prop :=
  LikeOperation (AfterParameter leads) (AfterResponse leads)

abbrev AfterItem (leads : String → Members → Prop) : Scalar → Value → Value → Prop :=
  LikeItem (AfterParameter leads) (AfterResponse leads)

abbrev AfterDocument (leads : String → Members → Prop) : Scalar → Value → Value → Prop :=
  LikeDocument (AfterParameter leads) (AfterResponse leads)

theorem listed_maps {l l' : List Members}
    (h : List.Forall₂ (fun p p' => P (.map p) (.map p')) l l') :
    Listed P (.list (l.map .map)) (.list (l'.map .map)) :=
  .list (List.forall₂_map_left_iff.2 (List.forall₂_map_right_iff.2 h))

theorem response_together (h : BeforeResponse leads v w) :
    Together (AfterResponse leads) (response v) (response w) := by
  cases h with
  | same => exact .refl .same _
  | put hl hk =>
    obtain ⟨rfl, q, becomes⟩ := hk
    rw [response, response, becomes.converted]
    exact .pure (.put hl becomes)

theorem operationMember_together {m m' : Scalar × Value}
    (h : OneAlike (LikeOperation (BeforeParameter leads) (BeforeResponse leads)) m m') :
    Together (Option.Rel (OneAlike (AfterOperation leads)))
      (operationMember m) (operationMember m') := by
  obtain ⟨k, v⟩ := m
  obtain ⟨k', w⟩ := m'
  obtain rfl : k = k' := h.1
  have value : LikeOperation (BeforeParameter leads) (BeforeResponse leads) k v w := h.2
  simp only [LikeOperation, isOneOf_singleton] at value
  by_cases hp : (Value.scalar k).isText "parameters" = true
  · simp only [operationMember, hp, Bool.true_or, if_true]
    exact .pure .none
  · by_cases hr : (Value.scalar k).isText "responses" = true
    · rw [if_neg hp, if_pos hr] at value
      obtain rfl := eq_of_isText hr
      refine .bind (similar_members (fun _ => .same) value) fun rs rs' hrs => ?_
      have each : Together (Members.Rel fun _ => AfterResponse leads) (mapValues response rs)
          (mapValues response rs') :=
        .mapM hrs fun m m' hm => .bind (response_together hm.2) fun u u' hu => .pure ⟨hm.1, hu⟩
      exact .bind each fun out out' hout => .pure (.some ⟨rfl, .map hout⟩)
    · rw [if_neg hp, if_neg hr] at value
      subst value
      refine .refl (fun x => ?_) _
      cases x with
      | none => exact .none
      | some m => exact .some ⟨rfl, likeOperation_same _ _⟩

theorem operation_together (outward : Outward leads)
    (h : Members.Rel (LikeOperation (BeforeParameter leads) (BeforeResponse leads)) op op') :
    Together (Members.Rel (AfterOperation leads)) (operation names shared op)
      (operation names shared op') := by
  have own : Listed (BeforeParameter leads) ((op.get? "parameters").getD (.list []))
      ((op'.get? "parameters").getD (.list [])) :=
    getD_rel (h.get? "parameters") (.same _)
  refine .bind (listed_items .same own) fun items items' hi =>
    .bind (splitParameters_together outward hi) fun r r' hr =>
      .bind (together_collect h fun _ _ => operationMember_together) fun out out' hout => .pure ?_
  obtain ⟨ps, body⟩ := r
  obtain ⟨ps', body'⟩ := r'
  obtain ⟨hps, hbody⟩ := hr
  obtain rfl : body = body' := hbody
  have members : Members.Rel (AfterOperation leads)
      (if ps.isEmpty then out else Members.insert (.str "parameters") (.list (ps.map .map)) out)
      (if ps'.isEmpty then out' else
        Members.insert (.str "parameters") (.list (ps'.map .map)) out') := by
    have empty : ps.isEmpty = ps'.isEmpty := by cases hps <;> rfl
    rw [empty]
    split
    · exact hout
    · exact insert_rel hout (listed_maps hps)
  dsimp only
  cases body.or shared with
  | none => exact members
  | some b => exact insert_rel members (likeOperation_same _ _)

/-! ## Path items -/

theorem oneAlike_same (hR : ∀ k v, R k v v) (x : Option (Scalar × Value)) :
    Option.Rel (OneAlike R) x x := by
  cases x with
  | none => exact .none
  | some m => exact .some ⟨rfl, hR _ _⟩

theorem pathMember_together (outward : Outward leads) {m m' : Scalar × Value}
    (h : OneAlike (LikeItem (BeforeParameter leads) (BeforeResponse leads)) m m') :
    Together (Option.Rel (OneAlike (AfterItem leads)))
      (pathMember names shared m) (pathMember names shared m') := by
  obtain ⟨k, v⟩ := m
  obtain ⟨k', w⟩ := m'
  obtain rfl : k = k' := h.1
  have value : LikeItem (BeforeParameter leads) (BeforeResponse leads) k v w := h.2
  unfold LikeItem at value
  by_cases hp : isOneOf ["parameters"] k = true
  · -- The parameters of a path item are no member of it by themselves.
    rw [isOneOf_singleton] at hp
    obtain rfl := eq_of_isText hp
    exact .pure .none
  · rw [if_neg hp] at value
    have same (u : Value) : Together (Option.Rel (OneAlike (AfterItem leads)))
        (pathMember names shared (k, u)) (pathMember names shared (k, u)) :=
      .refl (oneAlike_same likeItem_same) _
    split at value
    · next hm =>
      cases value with
      | same => exact same v
      | map hop =>
        rw [pathMember_operation hm, pathMember_operation hm]
        refine .bind (operation_together outward hop) fun out out' hout => .pure (.some ⟨rfl, ?_⟩)
        unfold AfterItem LikeItem
        rw [if_neg hp, if_pos hm]
        exact .map hout
    · exact value ▸ same v

theorem pathItem_together (outward : Outward leads)
    (h : Members.Rel (LikeItem (BeforeParameter leads) (BeforeResponse leads)) item item') :
    Together (Members.Rel (AfterItem leads)) (pathItem names item) (pathItem names item') := by
  have own := h.get? "parameters"
  rw [pathItem, pathItem]
  generalize item.get? "parameters" = x, item'.get? "parameters" = y at own ⊢
  have rest (shared : Option Members) : Together (Members.Rel (AfterItem leads))
      (collect (pathMember names shared) item) (collect (pathMember names shared) item') :=
    together_collect h fun _ _ => pathMember_together outward
  have lists (items items' : List Value)
      (hi : List.Forall₂ (BeforeParameter leads) items items') :
      Together (Members.Rel (AfterItem leads))
        (splitParameters names items >>= fun r => collect (pathMember names r.2) item >>=
          fun out => pure (named "parameters" (.list (r.1.map .map)) :: out))
        (splitParameters names items' >>= fun r => collect (pathMember names r.2) item' >>=
          fun out => pure (named "parameters" (.list (r.1.map .map)) :: out)) := by
    refine .bind (splitParameters_together outward hi) fun r r' hr => ?_
    rw [hr.2]
    exact .bind (rest r'.2) fun out out' hout => .pure (.cons ⟨rfl, listed_maps hr.1⟩ hout)
  cases own with
  | none => exact rest none
  | @some v w hv =>
    cases (hv : Listed (BeforeParameter leads) v w) with
    | same =>
      cases v with
      | list items => exact lists items items (List.forall₂_same.2 fun u _ => .same u)
      | _ => exact rest none
    | list hi => exact lists _ _ hi

theorem path_together (outward : Outward leads) {m m' : Scalar × Value}
    (h : OneAlike (fun _ => Similar (LikeItem (BeforeParameter leads) (BeforeResponse leads)))
      m m') :
    Together (Option.Rel (OneAlike fun _ => Similar (AfterItem leads)))
      (path names m) (path names m') := by
  obtain ⟨k, v⟩ := m
  obtain ⟨k', w⟩ := m'
  obtain rfl : k = k' := h.1
  cases (h.2 : Similar (LikeItem (BeforeParameter leads) (BeforeResponse leads)) v w) with
  | same => exact .refl (oneAlike_same fun _ => .same) _
  | map hi =>
    exact .bind (pathItem_together outward hi) fun out out' hout => .pure (.some ⟨rfl, .map hout⟩)

/-! ## Documents -/

theorem section?_similar {R : Scalar → Value → Value → Prop} {name : String}
    (h : Option.Rel (Similar R) (doc.get? name) (doc'.get? name)) :
    Option.Rel (Similar R) (section? doc name) (section? doc' name) := by
  rw [section?, section?]
  generalize doc.get? name = x, doc'.get? name = y at h ⊢
  cases h with
  | none => exact .none
  | some hv =>
    rw [Value.ifTruthy, Value.ifTruthy, truthy_eq_of_similar hv]
    split
    · exact .some hv
    · exact .none

theorem sectionMembers_together {R : Scalar → Value → Value → Prop} {name : String}
    (same : ∀ k v, R k v v) (h : Option.Rel (Similar R) (doc.get? name) (doc'.get? name)) :
    Together (Members.Rel R) (sectionMembers doc name) (sectionMembers doc' name) := by
  have own := section?_similar h
  rw [sectionMembers, sectionMembers]
  generalize section? doc name = x, section? doc' name = y at own ⊢
  cases own with
  | none => exact .pure .nil
  | some hv => exact similar_members same hv

theorem assemble_together (outward : Outward leads) (version : String)
    (h : Members.Rel (LikeDocument (BeforeParameter leads) (BeforeResponse leads)) doc doc') :
    Together (Members.Rel (AfterDocument leads)) (assemble version doc)
      (assemble version doc') := by
  have same : ∀ name, name ≠ "paths" → doc.get? name = doc'.get? name := fun name =>
    get?_eq_of_likeDocument h
  have shared : sectionMembers doc "parameters" = sectionMembers doc' "parameters" := by
    rw [sectionMembers, sectionMembers, section?, section?, same "parameters" (by decide)]
  have served : servers doc = servers doc' := by
    unfold servers section? Members.has
    rw [same "host" (by decide), same "basePath" (by decide), same "schemes" (by decide)]
  have parts : components doc = components doc' := by
    simp only [components, sharedSection, section?, shared, same "definitions" (by decide),
      same "responses" (by decide), same "securityDefinitions" (by decide)]
  have paths := sectionMembers_together (R := fun _ =>
    Similar (LikeItem (BeforeParameter leads) (BeforeResponse leads))) (fun _ v => .same v)
    (h.get? "paths")
  unfold assemble
  rw [served, shared, parts, same "info" (by decide)]
  refine .bind_same fun served => ?_
  refine .bind_same fun shared => ?_
  refine .bind paths fun ps ps' hps =>
    .bind (together_collect hps fun _ _ => path_together outward) fun items items' hitems => ?_
  refine .bind_same fun comps => .pure ?_
  have refl (ms : Members) : Members.Rel (AfterDocument leads) ms ms := .refl likeDocument_same ms
  have converted : Members.Rel (AfterDocument leads) [named "paths" (.map items)]
      [named "paths" (.map items')] :=
    .cons ⟨rfl, .map hitems⟩ .nil
  have moved (before after : Members) : Members.Rel (AfterDocument leads)
      (before ++ [named "paths" (.map items)] ++ after)
      (before ++ [named "paths" (.map items')] ++ after) :=
    List.rel_append (List.rel_append (refl before) converted) (refl after)
  refine List.rel_append (moved _ _)
    (Members.Rel.filter h (fun k v w hk => ?_) fun k v w hk ht => ?_)
  · rw [Members.Rel.isNone_lookup (moved _ _)]
  · -- What is kept is not the paths.
    have beside : isOneOf ["paths"] k = false := isOneOf_of_kept (by decide) ht
    exact eq_of_likeDocument hk beside ▸ likeDocument_same k v

/-- Documents with references, or with mappings in their place that are read alike, are converted
alike. -/
theorem convert_together (outward : Outward leads) (target : String)
    (h : Resembles (BeforeParameter leads) (BeforeResponse leads) v w) :
    Together (Members.Rel (AfterDocument leads)) (convert v target) (convert w target) := by
  unfold convert
  refine .bind (liftShape_together (similar_members likeDocument_same h)) fun ms ms' hms => ?_
  have swagger : ms.get? "swagger" = ms'.get? "swagger" :=
    get?_eq_of_likeDocument hms (by decide)
  have moved : Members.Rel (LikeDocument (BeforeParameter leads) (BeforeResponse leads))
      (moveRefsOfMembers ms) (moveRefsOfMembers ms') :=
    moveRefsOfMembers_rel hms fun _ _ _ => moveMember_document outward
  rw [swagger]
  dsimp only
  split
  · exact .error _ _
  · split
    · exact .error _ _
    · exact liftShape_together (assemble_together outward _ moved)

/-! ## What is put in place has no references -/

/-- A value that means itself where no reference leads anywhere has no references. -/
theorem refTexts_eq_nil_of_means_self (h : Means "" [] v v) : refTexts v = [] := by
  induction v using Value.inductionOn with
  | scalar | pair | set => rfl
  | list items ih =>
    obtain ⟨_, same, each⟩ := unfolds_list_iff.1 h
    obtain rfl := Value.list.inj same
    exact refTexts_list_eq_nil fun v hv => ih v hv (List.forall₂_same.1 each v hv)
  | map ms ih =>
    cases text : refText? ms with
    | none =>
      obtain ⟨_, same, each⟩ := (unfolds_map_iff text).1 h
      obtain rfl := Value.map.inj same
      exact refTexts_map_eq_nil text fun m hm => ih m hm (List.forall₂_same.1 each m hm).2
    | some ref =>
      -- The reference leads to the empty document, which is no reference.
      obtain ⟨u, ⟨pointer, segments, -, -, hw⟩, hu⟩ := h.leads text
      cases segments with
      | nil =>
        obtain rfl := Except.ok.inj hw
        obtain ⟨_, same, each⟩ := (unfolds_map_iff rfl).1 hu
        obtain rfl := Value.map.inj same
        cases each
        cases text
      | cons segment rest =>
        obtain ⟨u, ⟨hu⟩, -⟩ := Pointer.walk_cons_eq_ok_iff.1 hw
        cases hu

theorem refTexts_eq_nil_of_plain (h : plain v = true) : refTexts v = [] :=
  refTexts_eq_nil_of_means_self (means_self_of_plain h)

/-- Parameters and responses without references are converted into such. -/
theorem plainBoth_becomes {conversion : Members → Except Malformed Members}
    {alike : Members → Members → Prop}
    (h : ∀ obj, plain (.map obj) = true →
      Follows (Matching "" []) (conversion obj) (conversion obj)) :
    PlainBoth (Becomes conversion alike) alike := by
  intro obj q becomes
  obtain ⟨q', hq', agree⟩ := h obj becomes.plain q becomes.converted
  obtain rfl : q = q' := Except.ok.inj (becomes.converted.symm.trans hq')
  exact ⟨refTexts_eq_nil_of_plain becomes.plain, refTexts_eq_nil_of_means_self agree.agrees.means,
    becomes.alike⟩

theorem alike_self (hr : ∀ k v, plain v = true → R k v v) (h : plain (.map ms) = true) :
    Alike R ms ms := by
  cases Each.self hr h with
  | map h => exact h
  | other h => cases h

theorem plainBoth_parameter : PlainBoth (Becomes parameter ParameterAlike) ParameterAlike :=
  plainBoth_becomes fun _ h => parameter_follows (alike_self (fun _ _ => fieldRel_self) h)

theorem plainBoth_response : PlainBoth (Becomes responseMembers ResponseAlike) ResponseAlike :=
  plainBoth_becomes fun _ h =>
    responseMembers_follows (alike_self (fun _ _ => responseField_self) h)

/-- A document without references is converted into such. -/
theorem refTexts_assemble {version : String} (h : plain (.map doc) = true)
    (hc : assemble version doc = .ok conv) : Reference.refTexts (.map conv) = [] := by
  have self : Alike (DocumentField "" [] ((sectionMembers doc "parameters").toOption.elim []
      bodyNames)) doc doc := alike_self (fun _ _ => documentField_self) h
  obtain ⟨conv', hc', agree⟩ := assemble_follows self (fun shared hs => by rw [hs]; rfl) conv hc
  obtain rfl : conv = conv' := Except.ok.inj (hc.symm.trans hc')
  exact refTexts_eq_nil_of_means_self agree.agrees.means

end ApiAccord.Swagger
