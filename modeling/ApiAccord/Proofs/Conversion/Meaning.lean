import ApiAccord.Proofs.Conversion.Positions
import ApiAccord.Proofs.Document.FiniteUnfolding

/-!
# What a document means by itself

A document without references into others is resolved within itself: `Leads` says where a reference
goes, and `Means` what a node unfolds to.  A value without references means itself; and what a node
of a movable document means has no references left (`Means.resolved`), so that a conversion leaves
it as it is.
-/

namespace ApiAccord.Swagger

open Reference

/-- A node of a document unfolds to a value, by references into the same document. -/
abbrev Means (home : String) (doc : Members) (v w : Value) : Prop :=
  Unfolds (strictly false home) .empty ⟨.map doc, none⟩ v w

/-- A reference leads to a node of a document. -/
def Leads (doc : Members) (ref : String) (v : Value) : Prop :=
  ∃ pointer segments, ref = "#" ++ pointer ∧ Pointer.segments? pointer = some segments ∧
    Pointer.walk ref segments (.map doc) = .ok v

variable {home ref : String} {doc ms : Members} {v w : Value}

theorem designates_iff {there : Place} {pointer : String} :
    Designates (strictly false home) .empty ⟨.map doc, none⟩ ref there pointer v ↔
      ref = "#" ++ pointer ∧ there = ⟨.map doc, none⟩ ∧
        Pointer.resolve ref pointer (.map doc) = .ok v := by
  constructor
  · rintro ⟨t, ht, rfl, hp, hv⟩
    rw [split] at ht
    split at ht
    · next pointer hs =>
      obtain rfl := Except.ok.inj ht
      obtain rfl := Except.ok.inj hp
      exact ⟨Text.stripHead?_eq_some_iff.1 hs, rfl, hv⟩
    · cases ht
  · rintro ⟨hr, rfl, hv⟩
    refine ⟨⟨none, pointer⟩, ?_, rfl, rfl, hv⟩
    rw [split, Text.stripHead?_eq_some_iff.2 hr]

theorem leads_iff : Leads doc ref v ↔
    ∃ pointer, ref = "#" ++ pointer ∧ Pointer.resolve ref pointer (.map doc) = .ok v := by
  simp only [Pointer.resolve_eq_ok_iff, Leads]
  constructor
  · rintro ⟨pointer, segments, hr, hs, hw⟩
    exact ⟨pointer, hr, segments, hs, hw⟩
  · rintro ⟨pointer, hr, segments, hs, hw⟩
    exact ⟨pointer, segments, hr, hs, hw⟩

theorem means_of_leads (text : refText? ms = some ref) (hl : Leads doc ref v)
    (h : Means home doc v w) : Means home doc (.map ms) w := by
  obtain ⟨pointer, hr, hv⟩ := leads_iff.1 hl
  exact .ref text (designates_iff.2 ⟨hr, rfl, hv⟩) h

theorem Means.leads (h : Means home doc (.map ms) w) (text : refText? ms = some ref) :
    ∃ v, Leads doc ref v ∧ Means home doc v w := by
  obtain ⟨there, pointer, v, hd, hu⟩ := h.designates text
  obtain ⟨hr, rfl, hv⟩ := designates_iff.1 hd
  exact ⟨v, leads_iff.2 ⟨pointer, hr, hv⟩, hu⟩

/-- Induction over what a node means. -/
theorem Means.induction {motive : Value → Value → Prop} (h : Means home doc v w)
    (scalar : ∀ s, motive (.scalar s) (.scalar s)) (pair : ∀ a b, motive (.pair a b) (.pair a b))
    (set : ∀ items, motive (.set items) (.set items))
    (list : ∀ items items', List.Forall₂ motive items items' →
      motive (.list items) (.list items'))
    (map : ∀ ms ms' : Members, refText? ms = none →
      List.Forall₂ (fun m m' => m.1 = m'.1 ∧ motive m.2 m'.2) ms ms' → motive (.map ms) (.map ms'))
    (follow : ∀ (ms : Members) ref v w, refText? ms = some ref → Leads doc ref v → motive v w →
      motive (.map ms) w) : motive v w := by
  unfold Means at h
  generalize hp : (⟨.map doc, none⟩ : Place) = here at h
  induction h with
  | scalar s => exact scalar s
  | pair a b => exact pair a b
  | set items => exact set items
  | list length _ ih =>
    exact list _ _ (List.forall₂_iff_get.2 ⟨length, fun i h h' => ih i h h' hp⟩)
  | map text length keys _ ih =>
    exact map _ _ text
      (List.forall₂_iff_get.2 ⟨length, fun i h h' => ⟨keys i h h', ih i h h' hp⟩⟩)
  | ref text target _ ih =>
    subst hp
    obtain ⟨hr, rfl, hv⟩ := designates_iff.1 target
    exact follow _ _ _ _ text (leads_iff.2 ⟨_, hr, hv⟩) (ih rfl)

/-! ## Values without references -/

theorem plain_list {items : List Value} :
    plain (.list items) = true ↔ ∀ v ∈ items, plain v = true :=
  allRefs_list

theorem plain_map : plain (.map ms) = true ↔
    isReference ms = false ∧ ∀ m ∈ ms, plain m.2 = true := by
  rw [plain, allRefs_map]
  cases isReference ms <;> simp [plain]

theorem means_iff_of_plain (h : plain v = true) : Means home doc v w ↔ w = v := by
  constructor
  · intro hm
    induction v using Value.inductionOn generalizing w with
    | scalar | pair | set => cases hm; rfl
    | list items ih =>
      obtain ⟨items', rfl, hf⟩ := unfolds_list_iff.1 hm
      have same := forall₂_imp_of_mem_left (S := Eq) hf fun v hv w hw =>
        (ih v hv (plain_list.1 h v hv) hw).symm
      rw [List.forall₂_eq_eq_eq] at same
      rw [same]
    | map ms ih =>
      obtain ⟨hr, hi⟩ := plain_map.1 h
      obtain ⟨ms', rfl, hf⟩ := (unfolds_map_iff (refText?_eq_none hr)).1 hm
      have same := forall₂_imp_of_mem_left (S := Eq) hf fun m hm m' hw =>
        Prod.ext hw.1 (ih m hm (hi m hm) hw.2).symm
      rw [List.forall₂_eq_eq_eq] at same
      rw [same]
  · rintro rfl
    induction w using Value.inductionOn with
    | scalar s => exact .scalar s
    | pair a b => exact .pair a b
    | set items => exact .set items
    | list items ih =>
      exact unfolds_list_iff.2
        ⟨items, rfl, List.forall₂_same.2 fun v hv => ih v hv (plain_list.1 h v hv)⟩
    | map ms ih =>
      obtain ⟨hr, hi⟩ := plain_map.1 h
      exact (unfolds_map_iff (refText?_eq_none hr)).2
        ⟨ms, rfl, List.forall₂_same.2 fun m hm => ⟨rfl, ih m hm (hi m hm)⟩⟩

theorem means_self_of_plain (h : plain v = true) : Means home doc v v :=
  (means_iff_of_plain h).2 rfl

/-! ## Kinds of values -/

/-- Texts, nulls and mappings are the same on both sides. -/
structure SameKind (v w : Value) : Prop where
  str? : v.str? = w.str?
  isNull : v.isNull = w.isNull
  isMap : v.isMap = w.isMap

theorem str?_eq_none_of_isMap (h : v.isMap = true) : v.str? = none := by
  cases v <;> first | rfl | cases h

theorem SameKind.of_isMap (hv : v.isMap = true) (hw : w.isMap = true) : SameKind v w := by
  cases v <;> cases hv
  cases w <;> cases hw
  exact ⟨rfl, rfl, rfl⟩

/-! ## Moved references -/

/-- A member with moved references. -/
def moveMember (m : Scalar × Value) : Scalar × Value :=
  (m.1, match isRefKey m.1, m.2.str? with
    | true, some ref => .str (movedRef ref)
    | _, _ => moveRefs m.2)

theorem moveRefs_list (items : List Value) :
    moveRefs (.list items) = .list (items.map moveRefs) := by
  rw [moveRefs]
  congr 1
  induction items with
  | nil => rfl
  | cons v rest ih => rw [moveRefsOfItems, ih, List.map_cons]

theorem moveRefsOfMembers_eq (ms : Members) : moveRefsOfMembers ms = ms.map moveMember := by
  induction ms with
  | nil => rfl
  | cons m rest ih => rw [moveRefsOfMembers, ih, List.map_cons]; rfl

theorem moveMember_of_str?_eq_none {m : Scalar × Value}
    (h : isRefKey m.1 = true → m.2.str? = none) : moveMember m = (m.1, moveRefs m.2) := by
  rw [moveMember]
  split
  · next hk hs => rw [h hk] at hs; cases hs
  · rfl

theorem moveRefs_map_of_plain (h : isReference ms = false) :
    moveRefs (.map ms) = .map (ms.map fun m => (m.1, moveRefs m.2)) := by
  rw [moveRefs, moveRefsOfMembers_eq]
  exact congrArg Value.map (List.map_congr_left fun m hm =>
    moveMember_of_str?_eq_none (isReference_eq_false_iff.1 h m hm))

theorem moveRefs_of_plain (h : plain v = true) : moveRefs v = v := by
  induction v using Value.inductionOn with
  | scalar | pair | set => rfl
  | list items ih =>
    rw [moveRefs_list, List.map_congr_left fun v hv => ih v hv (plain_list.1 h v hv), List.map_id']
  | map ms ih =>
    obtain ⟨hr, hi⟩ := plain_map.1 h
    rw [moveRefs_map_of_plain hr, List.map_congr_left fun m hm =>
      congrArg (Prod.mk m.1) (ih m hm (hi m hm)), List.map_id']

theorem sameKind_moveRefs (v : Value) : SameKind (moveRefs v) v := by
  cases v <;> exact ⟨rfl, rfl, rfl⟩

theorem truthy_moveRefs (v : Value) : (moveRefs v).truthy = v.truthy := by
  cases v with
  | list items =>
    rw [moveRefs_list]
    cases items <;> rfl
  | map ms => cases ms <;> rfl
  | _ => rfl

theorem isReference_map_moveRefs (ms : Members) :
    isReference (ms.map fun m => (m.1, moveRefs m.2)) = isReference ms := by
  rw [isReference, isReference, List.any_map]
  exact congrArg ms.any (funext fun m => by simp [(sameKind_moveRefs m.2).str?])

/-! ## What is left of a sound document -/

theorem Leads.exists_walk (h : Leads doc ref v) :
    ∃ ref segments, Pointer.walk ref segments (.map doc) = .ok v := by
  obtain ⟨_, segments, -, -, hw⟩ := h
  exact ⟨ref, segments, hw⟩

theorem isMap_of_leadsToMapping (h : leadsToMapping doc ref = true) (hl : Leads doc ref v) :
    v.isMap = true := by
  obtain ⟨pointer, hr, hv⟩ := leads_iff.1 hl
  simpa only [leadsToMapping, Text.stripHead?_eq_some_iff.2 hr, hv] using h

/-- Where references stand alone, a mapping that the resolver takes for no reference is none. -/
theorem isReference_eq_false_of_lone (hv : allRefs loneRef (.map ms) = true)
    (text : refText? ms = none) : isReference ms = false := by
  by_contra href
  obtain ⟨ref, rfl⟩ := eq_of_loneRef ((allRefs_map.1 hv).1 (Bool.not_eq_false _ ▸ href))
  cases text

/-- Where references stand alone, one is a mapping of one member. -/
theorem eq_refMembers_of_lone (hv : allRefs loneRef (.map ms) = true)
    (text : refText? ms = some ref) : ms = [(.str "$ref", .str ref)] := by
  have href : isReference ms = true := by
    by_contra h
    rw [refText?_eq_none (Bool.not_eq_true _ ▸ h)] at text
    cases text
  obtain ⟨ref', rfl⟩ := eq_of_loneRef ((allRefs_map.1 hv).1 href)
  obtain rfl := Option.some.inj text
  rfl

theorem isReference_eq_false_of_sound (hv : allRefs (soundRef doc) (.map ms) = true)
    (text : refText? ms = none) : isReference ms = false :=
  isReference_eq_false_of_lone (allRefs_mono (fun _ => loneRef_of_soundRef) hv) text

/-- A reference of a sound document is a mapping of one member. -/
theorem eq_of_refText? (hv : allRefs (soundRef doc) (.map ms) = true)
    (text : refText? ms = some ref) :
    ms = [(.str "$ref", .str ref)] ∧ leadsToMapping doc ref = true := by
  obtain rfl := eq_refMembers_of_lone (allRefs_mono (fun _ => loneRef_of_soundRef) hv) text
  obtain ⟨ref', same, leads⟩ := eq_of_soundRef ((allRefs_map.1 hv).1 rfl)
  cases same
  exact ⟨rfl, leads⟩

/-- What a node of a sound document means is of its kind, and has no references left. -/
theorem Means.resolved (sound : allRefs (soundRef doc) (.map doc) = true)
    (hv : allRefs (soundRef doc) v = true) (h : Means home doc v w) :
    SameKind v w ∧ moveRefs w = w := by
  refine h.induction (motive := fun v w => allRefs (soundRef doc) v = true →
    SameKind v w ∧ moveRefs w = w) (fun s _ => ⟨⟨rfl, rfl, rfl⟩, rfl⟩)
    (fun a b _ => ⟨⟨rfl, rfl, rfl⟩, rfl⟩) (fun items _ => ⟨⟨rfl, rfl, rfl⟩, rfl⟩)
    (fun items items' ih hv => ?list) (fun ms ms' text ih hv => ?map)
    (fun ms ref v w text hl ih hv => ?follow) hv
  case list =>
    refine ⟨⟨rfl, rfl, rfl⟩, ?_⟩
    have each : ∀ w ∈ items', moveRefs w = w := by
      intro w hw
      obtain ⟨v, hm, hvw⟩ := exists_of_forall₂_of_mem_left ih.flip hw
      exact (hvw (allRefs_list.1 hv v hm)).2
    rw [moveRefs_list, List.map_congr_left each, List.map_id']
  case map =>
    refine ⟨⟨rfl, rfl, rfl⟩, ?_⟩
    have noRef := isReference_eq_false_of_sound hv text
    have each : ∀ m' ∈ ms', (isRefKey m'.1 = true → m'.2.str? = none) ∧ moveRefs m'.2 = m'.2 := by
      intro m' hm'
      obtain ⟨m, hm, hk, hmm⟩ := exists_of_forall₂_of_mem_left ih.flip hm'
      obtain ⟨same, hw⟩ := hmm ((allRefs_map.1 hv).2 m hm)
      exact ⟨fun hkey => same.str? ▸ isReference_eq_false_iff.1 noRef m hm (hk ▸ hkey), hw⟩
    rw [moveRefs_map_of_plain (isReference_eq_false_iff.2 fun m' hm' => (each m' hm').1),
      List.map_congr_left fun m' hm' => congrArg (Prod.mk m'.1) (each m' hm').2, List.map_id']
  case follow =>
    obtain ⟨rfl, leads⟩ := eq_of_refText? hv text
    obtain ⟨ref', segments, hw⟩ := hl.exists_walk
    obtain ⟨same, clean⟩ := ih (allRefs_of_walk sound hw)
    have target := isMap_of_leadsToMapping leads hl
    exact ⟨.of_isMap rfl (same.isMap ▸ target), clean⟩

end ApiAccord.Swagger
