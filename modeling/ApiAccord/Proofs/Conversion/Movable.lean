import ApiAccord.Proofs.Conversion.Components
import ApiAccord.Proofs.Conversion.Documents

/-!
# Parts of movable documents

The parts of a movable document, with moved references, agree with what they mean: one theorem for
each kind of part, up to the document itself (`Stands.document`).  References to shared parts lead
to the converted ones, since these are what the components of the converted document supply.
-/

namespace ApiAccord.Swagger

open Reference

/-- A node of a sound document, and what it means. -/
structure Stands (home : String) (doc : Members) (v w : Value) : Prop where
  sound : allRefs (soundRef doc) v = true
  means : Means home doc v w

/-- The names of the shared bodies of a document whose references are moved. -/
def movedBodyNames (doc : Members) : List Scalar := bodyNames (sharedOf (moveRefsOfMembers doc))

/-! ## Shared bodies of the moved document -/

theorem inBody_moveRefsOfMembers (p : Members) : inBody (moveRefsOfMembers p) = inBody p := by
  rw [inBody, inBody, getOrNull, getOrNull, get?_moveRefsOfMembers p (by decide)]
  cases p.get? "in" with
  | none => rfl
  | some v => exact congrArg (· == some "body") (sameKind_moveRefs v).str?

theorem sharedOf_moveRefsOfMembers (doc : Members) :
    sharedOf (moveRefsOfMembers doc) = moveRefsOfMembers (sharedOf doc) := by
  rw [sharedOf, sharedOf, sectionMembers, sectionMembers, section?, section?,
    get?_moveRefsOfMembers doc (by decide)]
  cases doc.get? "parameters" with
  | none => rfl
  | some v =>
    rw [Option.map_some, Value.ifTruthy, Value.ifTruthy, truthy_moveRefs]
    by_cases full : v.truthy = true
    · rw [if_pos full, if_pos full]
      cases v <;> rfl
    · rw [if_neg full, if_neg full]
      rfl

theorem isMap_moveMember (m : Scalar × Value) : (moveMember m).2.isMap = m.2.isMap := by
  rw [moveMember]
  split
  · next ref _ hs =>
    cases hm : m.2.isMap with
    | false => rfl
    | true =>
      rw [str?_eq_none_of_isMap hm] at hs
      cases hs
  · exact (sameKind_moveRefs m.2).isMap

theorem bodyNames_moveRefsOfMembers (ms : Members) :
    bodyNames (moveRefsOfMembers ms) = bodyNames ms := by
  rw [moveRefsOfMembers_eq, bodyNames, List.filterMap_map]
  refine List.filterMap_congr fun m _ => ?_
  obtain ⟨k, v⟩ := m
  have kind := isMap_moveMember (k, v)
  rw [Function.comp_apply]
  cases v with
  | map p =>
    rw [moveMember_of_str?_eq_none fun _ => rfl]
    show (if inBody (moveRefsOfMembers p) then some k else none) = if inBody p then some k else none
    rw [inBody_moveRefsOfMembers]
  | _ =>
    split
    · next p hp =>
      rw [hp] at kind
      cases kind
    · rfl

theorem movedBodyNames_eq (doc : Members) : movedBodyNames doc = bodyNames (sharedOf doc) := by
  rw [movedBodyNames, sharedOf_moveRefsOfMembers, bodyNames_moveRefsOfMembers]

section Parts

variable {home name head : String} {doc conv ms : Members} {v w : Value} {k : Scalar}
  {kind : Scalar → Value → Bool} {R : Scalar → Value → Value → Prop}

theorem Stands.of_plain (h : Stands home doc v w) (hp : plain v = true) :
    moveRefs v = w ∧ plain w = true := by
  obtain rfl := (means_iff_of_plain hp).1 h.means
  exact ⟨moveRefs_of_plain hp, hp⟩

/-- A value whose members are of a kind, with moved references, is related to what it means if each
member is. -/
theorem Stands.each (h : Stands home doc v w) (hk : membersOf kind v = true)
    (hr : ∀ k v w, kind k v = true → Stands home doc v w → R k (moveRefs v) w) :
    Each R (moveRefs v) w := by
  cases v with
  | map ms =>
    obtain ⟨hn, hm⟩ := Bool.and_eq_true_iff.1 hk
    rw [Bool.not_eq_true'] at hn
    obtain ⟨ms', rfl, hf⟩ := (unfolds_map_iff (refText?_eq_none hn)).1 h.means
    rw [moveRefs_map_of_plain hn]
    refine .map (List.forall₂_map_left_iff.2 (forall₂_imp_of_mem_left hf fun m hmem m' hmm => ?_))
    refine ⟨hmm.1, hr _ _ _ (List.all_eq_true.1 hm m hmem)
      ⟨(allRefs_map.1 h.sound).2 m hmem, hmm.2⟩, fun hkey => ?_⟩
    exact (sameKind_moveRefs m.2).str?.trans (isReference_eq_false_iff.1 hn m hmem hkey)
  | _ =>
    obtain ⟨rfl, hp⟩ := h.of_plain hk
    exact .other rfl hp

/-! ## Schemas, parameters and responses -/

variable (supplies : Supplies (moveRefsOfMembers doc) conv) (movable : Movable doc)

include supplies

theorem leads_moved_definition {rest : String} {t : Value}
    (h : Leads doc ("#/definitions/" ++ rest) t) (ht : t.str? = none) :
    Leads conv ("#/components/schemas/" ++ rest) (moveRefs t) := by
  obtain ⟨u, hg, hw⟩ := leads_definition_iff.1 h
  refine supplies.schema rest (moveRefs u) (moveRefs t) ?_ (walk_moveRefs ht hw)
  rw [get?_moveRefsOfMembers doc (by decide), hg]
  rfl

include movable

theorem Stands.schema (h : Stands home doc v w) (hs : schematic v = true) :
    Agrees home conv (moveRefs v) w :=
  ⟨h.means.moved movable (fun _ _ => leads_moved_definition supplies) hs h.sound,
    (sameKind_moveRefs v).isNull.trans (h.means.resolved movable.sound h.sound).1.isNull⟩

/-- Members that have schemas under some names, and no references beside. -/
theorem Stands.field {names : List String} (h : Stands home doc v w)
    (hk : (if isOneOf names k then schematic v else plain v) = true) :
    FieldRel home conv names k (moveRefs v) w := by
  split at hk
  · next hf => exact ⟨h.schema supplies movable hk, fun hn => absurd (hf.symm.trans hn) (by decide)⟩
  · obtain ⟨rfl, hp⟩ := h.of_plain hk
    exact fieldRel_self hp

theorem Stands.typed (h : Stands home doc v w) (ht : typedPart v = true) :
    TypedRel home conv (moveRefs v) w :=
  h.each ht fun _ _ _ hk h => h.field supplies movable hk

theorem Stands.response (h : Stands home doc v w) (hr : responsePart v = true) :
    ResponseRel home conv (moveRefs v) w := by
  refine h.each hr fun k v w hk h => ?_
  unfold ResponseField
  split
  · next hf =>
    rw [isOneOf_singleton] at hf
    obtain rfl := eq_of_isText hf
    have headers : membersOf (fun _ => typedPart) v = true := hk
    exact h.each headers fun _ _ _ ht h => h.typed supplies movable ht
  · next hf =>
    refine h.field supplies movable ?_
    simpa only [memberOfResponse, hf, if_false, Bool.false_eq_true] using hk

/-! ## Shared parts -/

omit supplies movable in
/-- A reference to a shared part leads to the member of this name. -/
theorem Means.sharedRef (h : Means home doc v w) (lone : allRefs loneRef v = true)
    (hs : sharedRef head v = true) (hh : head = "#/" ++ name ++ "/") (hn : '/' ∉ name.toList)
    (ht : '~' ∉ name.toList) :
    ∃ part u t, v = .map (refMembers (head ++ part)) ∧ '/' ∉ part.toList ∧ doc.get? name = some u ∧
      Pointer.Down (Pointer.unescape part) u t ∧ Leads doc (head ++ part) t ∧
      Means home doc t w := by
  cases v with
  | map ms =>
    obtain ⟨part, hp, slash⟩ := (Option.any_eq_true _ _).1 hs
    obtain ⟨ref, text, hp⟩ := Option.bind_eq_some_iff.1 hp
    obtain rfl := eq_refMembers_of_lone lone text
    obtain rfl := Text.stripHead?_eq_some_iff.1 hp
    have slash : '/' ∉ part.toList := by simpa using slash
    obtain ⟨t, hl, target⟩ := h.leads text
    obtain ⟨u, hg, hw⟩ := (leads_section_iff hh hn ht).1 hl
    rw [segmentsOf_single slash] at hw
    obtain ⟨t', hd, hw⟩ := Pointer.walk_cons_eq_ok_iff.1 hw
    obtain rfl := Except.ok.inj hw
    exact ⟨part, u, t', rfl, slash, hg, hd, hl, target⟩
  | _ => cases hs

omit supplies in
/-- A reference to a shared part leads to the member of this name, a mapping. -/
theorem Stands.sharedRef (h : Stands home doc v w) (hs : sharedRef head v = true)
    (hh : head = "#/" ++ name ++ "/") (hn : '/' ∉ name.toList) (ht : '~' ∉ name.toList) :
    ∃ part u t, v = .map (refMembers (head ++ part)) ∧ '/' ∉ part.toList ∧ doc.get? name = some u ∧
      Pointer.Down (Pointer.unescape part) u (.map t) ∧ Stands home doc (.map t) w := by
  have lone := allRefs_mono (fun _ => loneRef_of_soundRef) h.sound
  obtain ⟨part, u, t, rfl, slash, hg, hd, hl, target⟩ := h.means.sharedRef lone hs hh hn ht
  obtain ⟨-, leads⟩ := eq_of_refText? h.sound (rfl : _ = some (head ++ part))
  have isMap := isMap_of_leadsToMapping leads hl
  obtain ⟨ref', segments, hw⟩ := hl.exists_walk
  cases t with
  | map t => exact ⟨part, u, t, rfl, slash, hg, hd, allRefs_of_walk movable.sound hw, target⟩
  | _ => cases isMap

omit supplies movable in
/-- A section that has a member is a mapping, and has it with moved references after the move. -/
theorem moved_member {us t : Value} {segment : String} (hg : doc.get? name = some us)
    (hn : name ≠ "$ref") (placed : membersOf kind us = true)
    (maps : ∀ u, Members.get? name (moveRefsOfMembers doc) = some u →
      u.truthy = true → u.isMap = true)
    (hd : Pointer.Down segment us t) :
    ∃ ms : Members, us = .map ms ∧ kind (.str segment) t = true ∧ ms.get? segment = some t ∧
      Members.get? name (moveRefsOfMembers doc) =
        some (.map (ms.map fun m => (m.1, moveRefs m.2))) ∧
      Members.get? segment (ms.map fun m => (m.1, moveRefs m.2)) = some (moveRefs t) := by
  have moved : Members.get? name (moveRefsOfMembers doc) = some (moveRefs us) := by
    rw [get?_moveRefsOfMembers doc hn, hg, Option.map_some]
  have isMap := maps _ moved ((truthy_moveRefs us).trans (truthy_of_down hd))
  cases us with
  | map ms =>
    obtain ⟨href, hm⟩ := Bool.and_eq_true_iff.1 placed
    rw [moveRefs_map_of_plain (Bool.not_eq_true' _ ▸ href)] at moved
    cases hd with
    | member hget =>
      refine ⟨ms, rfl, List.all_eq_true.1 hm _ (Members.mem_of_get? hget), hget, moved, ?_⟩
      rw [get?_map (f := fun m => (m.1, moveRefs m.2)) (fun _ => rfl), hget, Option.map_some]
  | _ => cases isMap

omit supplies movable in
theorem sharedOf_eq (hg : doc.get? "parameters" = some (.map ms)) : sharedOf doc = ms := by
  cases hm : ms with
  | nil =>
    rw [sharedOf, sectionMembers, section?, hg, hm]
    rfl
  | cons m rest =>
    rw [← hm, sharedOf, sectionMembers, section?_eq hg (truthy_map (hm ▸ List.cons_ne_nil _ _))]
    rfl

omit supplies in
theorem Movable.unescape_eq {segment : String} (hg : doc.get? "parameters" = some (.map ms))
    (hv : ms.get? (Pointer.unescape segment) = some v) : Pointer.unescape segment = segment := by
  have unescaped := List.all_eq_true.1 movable.unescaped _ (sharedOf_eq hg ▸ Members.mem_of_get? hv)
  exact unescape_eq_of_isUnescaped unescaped

omit supplies in
theorem movedBodyNames_any {t : Members} (hg : doc.get? "parameters" = some (.map ms))
    (moved : Members.get? "parameters" (moveRefsOfMembers doc) =
      some (.map (ms.map fun m => (m.1, moveRefs m.2))))
    (hv : Members.get? name (ms.map fun m => (m.1, moveRefs m.2)) = some (.map t)) :
    (movedBodyNames doc).any (Scalar.same (.str name)) = inBody t := by
  rw [movedBodyNames, sharedOf_eq moved]
  refine any_bodyNames ?_ hv
  rw [List.pairwise_map]
  exact sharedOf_eq hg ▸ movable.distinct

theorem Stands.entry (h : Stands home doc v w)
    (he : (Swagger.sharedRef "#/parameters/" v || typedPart v) = true) :
    EntryRel home conv (movedBodyNames doc) (moveRefs v) w := by
  rcases Bool.or_eq_true_iff.1 he with hs | ht
  · obtain ⟨part, u, t, rfl, slash, hg, hd, hst⟩ :=
      h.sharedRef movable hs (by rfl : _ = "#/" ++ "parameters" ++ "/") (by decide) (by decide)
    have placed : membersOf (fun _ => typedPart) u = true :=
      memberOfDocument_of_get? movable.placed hg
    obtain ⟨ms, rfl, typed, hget, moved, hget'⟩ :=
      moved_member hg (by decide) placed supplies.parameters hd
    have names := movedBodyNames_any movable hg moved hget'
    have same : Pointer.unescape part = part := movable.unescape_eq hg hget
    have rel := hst.typed supplies movable typed
    rw [moveRefs_refMembers,
      movedRef_append (by decide : ("#/parameters/", parameterRef) ∈ refHeads)]
    rw [same] at names
    cases rel with
    | map hp =>
      cases hb : inBody (moveRefsOfMembers t) with
      | false =>
        obtain ⟨q, hq, hl⟩ := supplies.parameter part _ _ moved slash hget' hb
        exact .parameter hp hb (names.trans hb) hq hl
      | true => exact .body hp hb (names.trans hb) (supplies.body part _ _ moved slash hget' hb)
    | other hm => cases hm
  · exact .own (h.typed supplies movable ht)

theorem Stands.responseEntry (h : Stands home doc v w)
    (he : (Swagger.sharedRef "#/responses/" v || responsePart v) = true) :
    ResponseEntryRel home conv (moveRefs v) w := by
  rcases Bool.or_eq_true_iff.1 he with hs | hr
  · obtain ⟨part, u, t, rfl, slash, hg, hd, hst⟩ :=
      h.sharedRef movable hs (by rfl : _ = "#/" ++ "responses" ++ "/") (by decide) (by decide)
    have placed : membersOf (fun _ => responsePart) u = true :=
      memberOfDocument_of_get? movable.placed hg
    obtain ⟨ms, rfl, response, -, moved, hget⟩ :=
      moved_member hg (by decide) placed supplies.responses hd
    obtain ⟨u, hu, hl⟩ := supplies.response part _ _ moved slash hget
    obtain ⟨q, hq, hu⟩ := bind_eq_ok_iff.1 hu
    obtain rfl := Except.ok.inj hu
    have rel := hst.response supplies movable response
    rw [moveRefs_refMembers,
      movedRef_append (by decide : ("#/responses/", "#/components/responses/") ∈ refHeads)]
    cases rel with
    | map hrs => exact .shared hrs hq hl
    | other hm => cases hm
  · exact .own (h.response supplies movable hr)

/-! ## Operations, path items and documents -/

theorem Stands.entries (h : Stands home doc v w) (he : parameterList v = true) :
    EntriesRel home conv (movedBodyNames doc) (moveRefs v) w := by
  cases v with
  | list items =>
    obtain ⟨items', rfl, hf⟩ := unfolds_list_iff.1 h.means
    rw [moveRefs_list]
    refine .list (List.forall₂_map_left_iff.2 (forall₂_imp_of_mem_left hf fun v hm w hw => ?_))
    have entry : Stands home doc v w := ⟨allRefs_list.1 h.sound v hm, hw⟩
    exact entry.entry supplies movable (List.all_eq_true.1 he v hm)
  | _ =>
    obtain ⟨rfl, hp⟩ := h.of_plain he
    exact .other nofun hp

theorem Stands.operation (h : Stands home doc v w) (ho : operationPart v = true) :
    Each (OperationField home conv (movedBodyNames doc)) (moveRefs v) w := by
  refine h.each ho fun k v w hk h => ?_
  unfold OperationField
  unfold memberOfOperation at hk
  split
  · next hf =>
    rw [if_pos hf] at hk
    exact h.entries supplies movable hk
  · next hf =>
    rw [if_neg hf] at hk
    split
    · next hf =>
      rw [if_pos hf] at hk
      exact h.each hk fun _ _ _ hr h => h.responseEntry supplies movable hr
    · next hf =>
      rw [if_neg hf] at hk
      obtain ⟨rfl, hp⟩ := h.of_plain hk
      exact agrees_self hp

theorem Stands.path (h : Stands home doc v w) (ho : pathPart v = true) :
    Each (PathField home conv (movedBodyNames doc)) (moveRefs v) w := by
  refine h.each ho fun k v w hk h => ?_
  unfold PathField
  unfold memberOfPath at hk
  split
  · next hf =>
    rw [if_pos hf] at hk
    exact h.entries supplies movable hk
  · next hf =>
    rw [if_neg hf] at hk
    split
    · next hf =>
      rw [if_pos hf] at hk
      exact h.operation supplies movable hk
    · next hf =>
      rw [if_neg hf] at hk
      obtain ⟨rfl, hp⟩ := h.of_plain hk
      exact agrees_self hp

theorem Stands.document (h : Stands home doc v w) (ho : documentPart v = true) :
    Each (DocumentField home conv (movedBodyNames doc)) (moveRefs v) w := by
  refine h.each ho fun k v w hk h => ?_
  unfold DocumentField
  unfold memberOfDocument at hk
  by_cases hd : isOneOf ["definitions"] k = true
  · rw [if_pos hd] at hk ⊢
    exact h.each hk fun _ _ _ hs h => h.schema supplies movable hs
  rw [if_neg hd] at hk ⊢
  by_cases hp : isOneOf ["parameters"] k = true
  · rw [if_pos hp] at hk ⊢
    exact h.each hk fun _ _ _ ht h => h.typed supplies movable ht
  rw [if_neg hp] at hk ⊢
  by_cases hr : isOneOf ["responses"] k = true
  · rw [if_pos hr] at hk ⊢
    exact h.each hk fun _ _ _ hr h => h.response supplies movable hr
  rw [if_neg hr] at hk ⊢
  by_cases hpa : isOneOf ["paths"] k = true
  · rw [if_pos hpa] at hk ⊢
    exact h.each hk fun _ _ _ ho h => h.path supplies movable ho
  rw [if_neg hpa] at hk ⊢
  obtain ⟨rfl, hpl⟩ := h.of_plain hk
  exact ⟨rfl, hpl⟩

end Parts

end ApiAccord.Swagger
