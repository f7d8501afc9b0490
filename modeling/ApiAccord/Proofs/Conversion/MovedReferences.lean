import ApiAccord.Proofs.Conversion.Commuting
import ApiAccord.Proofs.Conversion.Keeping
import ApiAccord.Proofs.Document.Remaining

/-!
# References that are moved

Moving the references of a value changes the heads of outdated references, and nothing else
(`Rewritten`, `rewritten_iff`), so that no reference is moved twice (`moveRefs_moveRefs`).  Since a
conversion puts moved values together, an outdated reference is left in a converted document only if
it stands in a pair of the document, where references are not moved (`convert_moves_references`).
-/

namespace ApiAccord.Swagger

open Reference (Within)

/-! ## Texts of references -/

/-- Whether a reference leads into a section of the older family. -/
def isOutdated (ref : String) : Bool := refHeads.any fun h => Text.startsWith h.1 ref

/-- What becomes of the text of a reference. -/
inductive MovedText : (ref ref' : String) → Prop where
  | moved {old new rest : String} : (old, new) ∈ refHeads → MovedText (old ++ rest) (new ++ rest)
  | kept {ref : String} : isOutdated ref = false → MovedText ref ref

variable {ref ref' rest old new : String} {v w u : Value} {ms ns out p : Members}
  {items : List Value} {names : List Scalar} {good : String → Prop} {m : Scalar × Value} {k : Scalar}

theorem isOutdated_eq_true_iff : isOutdated ref = true ↔
    ∃ old new rest, (old, new) ∈ refHeads ∧ ref = old ++ rest := by
  simp only [isOutdated, List.any_eq_true, Text.startsWith_eq_true_iff, Prod.exists]
  exact ⟨fun ⟨old, new, hh, rest, hr⟩ => ⟨old, new, rest, hh, hr⟩,
    fun ⟨old, new, rest, hh, hr⟩ => ⟨old, new, hh, rest, hr⟩⟩

theorem isOutdated_component (rest : String) : isOutdated ("#/components/" ++ rest) = false := by
  have apart (head : String) : Text.startsWith head ("#/components/" ++ rest) =
      head.toList.isPrefixOf ("#/components/".toList ++ rest.toList) := by
    rw [Text.startsWith, String.toList_append]
  have definitions : Text.startsWith "#/definitions/" ("#/components/" ++ rest) = false :=
    (apart _).trans rfl
  have parameters : Text.startsWith "#/parameters/" ("#/components/" ++ rest) = false :=
    (apart _).trans rfl
  have responses : Text.startsWith "#/responses/" ("#/components/" ++ rest) = false :=
    (apart _).trans rfl
  simp [isOutdated, refHeads, definitions, parameters, responses]

theorem isOutdated_moved (h : (old, new) ∈ refHeads) (rest : String) :
    isOutdated (new ++ rest) = false := by
  have inside : ∀ h ∈ refHeads, ∃ name, h.2 = "#/components/" ++ name := by
    simp only [refHeads, List.forall_mem_cons, List.not_mem_nil, false_imp_iff, implies_true,
      and_true]
    exact ⟨⟨"schemas/", by decide⟩, ⟨"parameters/", by decide⟩, ⟨"responses/", by decide⟩⟩
  obtain ⟨name, rfl⟩ := inside _ h
  rw [String.append_assoc, isOutdated_component]

theorem movedRef_eq_self (h : isOutdated ref = false) : movedRef ref = ref := by
  have none : refHeads.find? (fun h => Text.startsWith h.1 ref) = none := by
    rw [isOutdated, List.any_eq_false] at h
    exact List.find?_eq_none.2 h
  rw [movedRef, none]

theorem movedText_iff : MovedText ref ref' ↔ ref' = movedRef ref := by
  constructor
  · rintro (hh | h)
    · exact (movedRef_append hh _).symm
    · exact (movedRef_eq_self h).symm
  · rintro rfl
    cases h : isOutdated ref with
    | false => exact (movedRef_eq_self h).symm ▸ .kept h
    | true =>
      obtain ⟨old, new, rest, hh, rfl⟩ := isOutdated_eq_true_iff.1 h
      exact movedRef_append hh rest ▸ .moved hh

/-- A reference that was moved is not outdated any more. -/
theorem isOutdated_movedRef (ref : String) : isOutdated (movedRef ref) = false := by
  cases h : isOutdated ref with
  | false => rw [movedRef_eq_self h, h]
  | true =>
    obtain ⟨old, new, rest, hh, rfl⟩ := isOutdated_eq_true_iff.1 h
    rw [movedRef_append hh, isOutdated_moved hh]

/-! ## Values with moved references -/

mutual

/-- The second value is the first with moved references: it has the same shape and keys, in order,
and the same scalars, but for the texts of references. -/
inductive Rewritten : (v w : Value) → Prop where
  | scalar (s : Scalar) : Rewritten (.scalar s) (.scalar s)
  | pair (a b : Value) : Rewritten (.pair a b) (.pair a b)
  | set (items : List Scalar) : Rewritten (.set items) (.set items)
  | list {items items' : List Value} : RewrittenItems items items' →
    Rewritten (.list items) (.list items')
  | map {ms ms' : Members} : RewrittenMembers ms ms' → Rewritten (.map ms) (.map ms')

inductive RewrittenItems : (items items' : List Value) → Prop where
  | nil : RewrittenItems [] []
  | cons {v v' : Value} {items items' : List Value} : Rewritten v v' →
    RewrittenItems items items' → RewrittenItems (v :: items) (v' :: items')

inductive RewrittenMembers : (ms ms' : Members) → Prop where
  | nil : RewrittenMembers [] []
  | ref {ref ref' : String} {ms ms' : Members} : MovedText ref ref' → RewrittenMembers ms ms' →
    RewrittenMembers (named "$ref" (.str ref) :: ms) (named "$ref" (.str ref') :: ms')
  | member {k : Scalar} {v v' : Value} {ms ms' : Members} :
    (isRefKey k = true → v.str? = none) → Rewritten v v' → RewrittenMembers ms ms' →
      RewrittenMembers ((k, v) :: ms) ((k, v') :: ms')

end

/-- A member is a reference, or nothing that a reference could be. -/
theorem reference_or_noRef (m : Scalar × Value) :
    (∃ ref, m = named "$ref" (.str ref)) ∨ (isRefKey m.1 = true → m.2.str? = none) := by
  obtain ⟨k, v⟩ := m
  by_cases hk : isRefKey k = true
  · obtain rfl := isRefKey_iff.1 hk
    cases v with
    | scalar s =>
      cases s with
      | str ref => exact .inl ⟨ref, rfl⟩
      | _ => exact .inr fun _ => rfl
    | _ => exact .inr fun _ => rfl
  · exact .inr fun h => absurd h hk

theorem moveMember_ref (ref : String) :
    moveMember (named "$ref" (.str ref)) = named "$ref" (.str (movedRef ref)) := rfl

theorem rewrittenItems_iff {items' : List Value}
    (each : ∀ v ∈ items, ∀ w, Rewritten v w ↔ w = moveRefs v) :
    RewrittenItems items items' ↔ items' = items.map moveRefs := by
  induction items generalizing items' with
  | nil => exact ⟨fun h => by cases h; rfl, fun h => h ▸ .nil⟩
  | cons v rest ih =>
    obtain ⟨hv, tail⟩ := List.forall_mem_cons.1 each
    constructor
    · rintro (_ | ⟨h, hr⟩)
      rw [List.map_cons, (hv _).1 h, (ih tail).1 hr]
    · rintro rfl
      exact .cons ((hv _).2 rfl) ((ih tail).2 rfl)

theorem rewrittenMembers_iff {ms' : Members}
    (each : ∀ m ∈ ms, ∀ w, Rewritten m.2 w ↔ w = moveRefs m.2) :
    RewrittenMembers ms ms' ↔ ms' = ms.map moveMember := by
  induction ms generalizing ms' with
  | nil => exact ⟨fun h => by cases h; rfl, fun h => h ▸ .nil⟩
  | cons m rest ih =>
    obtain ⟨hm, tail⟩ := List.forall_mem_cons.1 each
    constructor
    · intro h
      cases h with
      | ref ht hr => rw [List.map_cons, moveMember_ref, movedText_iff.1 ht, (ih tail).1 hr]
      | member noRef h hr =>
        rw [List.map_cons, moveMember_of_str?_eq_none noRef, (hm _).1 h, (ih tail).1 hr]
    · rintro rfl
      rcases reference_or_noRef m with ⟨ref, rfl⟩ | noRef
      · exact .ref (movedText_iff.2 rfl) ((ih tail).2 rfl)
      · rw [List.map_cons, moveMember_of_str?_eq_none noRef]
        exact .member noRef ((hm _).2 rfl) ((ih tail).2 rfl)

theorem rewritten_iff : Rewritten v w ↔ w = moveRefs v := by
  induction v using Value.inductionOn generalizing w with
  | scalar | pair | set => exact ⟨fun h => by cases h; rfl, fun h => h ▸ by constructor⟩
  | list items ih =>
    have each := fun v hv w => @ih v hv w
    rw [moveRefs_list]
    constructor
    · rintro (_ | _ | _ | h)
      rw [(rewrittenItems_iff each).1 h]
    · rintro rfl
      exact .list ((rewrittenItems_iff each).2 rfl)
  | map ms ih =>
    have each := fun m hm w => @ih m hm w
    rw [moveRefs, moveRefsOfMembers_eq]
    constructor
    · rintro (_ | _ | _ | _ | h)
      rw [(rewrittenMembers_iff each).1 h]
    · rintro rfl
      exact .map ((rewrittenMembers_iff each).2 rfl)

theorem moveMember_moveMember (h : moveRefs (moveRefs m.2) = moveRefs m.2) :
    moveMember (moveMember m) = moveMember m := by
  rcases reference_or_noRef m with ⟨ref, rfl⟩ | noRef
  · rw [moveMember_ref, moveMember_ref, movedRef_eq_self (isOutdated_movedRef ref)]
  · have still : isRefKey m.1 = true → (moveRefs m.2).str? = none := fun hk =>
      (sameKind_moveRefs m.2).str?.trans (noRef hk)
    rw [moveMember_of_str?_eq_none noRef, moveMember_of_str?_eq_none still, h]

/-- No reference is moved twice. -/
theorem moveRefs_moveRefs (v : Value) : moveRefs (moveRefs v) = moveRefs v := by
  induction v using Value.inductionOn with
  | scalar | pair | set => rfl
  | list items ih =>
    rw [moveRefs_list, moveRefs_list, List.map_map]
    exact congrArg Value.list (List.map_congr_left ih)
  | map ms ih =>
    rw [moveRefs, moveRefs, moveRefsOfMembers_eq, moveRefsOfMembers_eq, List.map_map]
    exact congrArg Value.map (List.map_congr_left fun m hm => moveMember_moveMember (ih m hm))

/-! ## References anywhere in a value -/

/-- A reference with this text stands somewhere in a value. -/
def HasRef (ref : String) (v : Value) : Prop :=
  ∃ ms, Within (.map ms) v ∧ named "$ref" (.str ref) ∈ ms

theorem hasRef_list_iff : HasRef ref (.list items) ↔ ∃ v ∈ items, HasRef ref v := by
  constructor
  · rintro ⟨ms, h, hr⟩
    cases h with
    | item hv h => exact ⟨_, hv, ms, h, hr⟩
  · rintro ⟨v, hv, ms, h, hr⟩
    exact ⟨ms, .item hv h, hr⟩

theorem hasRef_map_iff :
    HasRef ref (.map ms) ↔ named "$ref" (.str ref) ∈ ms ∨ ∃ m ∈ ms, HasRef ref m.2 := by
  constructor
  · rintro ⟨ns, h, hr⟩
    rcases Reference.within_map_iff.1 h with same | ⟨m, hm, h⟩
    · exact .inl (Value.map.inj same ▸ hr)
    · exact .inr ⟨m, hm, ns, h, hr⟩
  · rintro (hr | ⟨m, hm, ns, h, hr⟩)
    · exact ⟨ms, .self, hr⟩
    · exact ⟨ns, .member hm h, hr⟩

theorem not_hasRef_scalar (s : Scalar) : ¬HasRef ref (.scalar s) := by
  rintro ⟨ms, h, -⟩
  cases h

theorem allRefs_of_within {q : Members → Bool} (h : allRefs q v = true) (hw : Within u v) :
    allRefs q u = true := by
  induction hw with
  | self => exact h
  | item hm _ ih => exact ih (allRefs_list.1 h _ hm)
  | first _ ih => exact ih (Bool.and_eq_true_iff.1 h).1
  | second _ ih => exact ih (Bool.and_eq_true_iff.1 h).2
  | member hm _ ih => exact ih ((allRefs_map.1 h).2 _ hm)

theorem not_hasRef_of_plain (h : plain v = true) : ¬HasRef ref v := by
  rintro ⟨ms, hw, hr⟩
  obtain ⟨noRef, -⟩ := plain_map.1 (allRefs_of_within h hw)
  cases isReference_eq_false_iff.1 noRef _ hr rfl

/-- No moved member is an outdated reference. -/
theorem isOutdated_of_moveMember (h : moveMember m = named "$ref" (.str ref)) :
    isOutdated ref = false := by
  rcases reference_or_noRef m with ⟨ref', rfl⟩ | noRef
  · rw [moveMember_ref] at h
    obtain ⟨-, text⟩ := Prod.mk.inj h
    cases text
    exact isOutdated_movedRef ref'
  · rw [moveMember_of_str?_eq_none noRef] at h
    obtain ⟨hk, hv⟩ := Prod.mk.inj h
    have text := (sameKind_moveRefs m.2).str?
    rw [hv, noRef (isRefKey_iff.2 hk)] at text
    cases text

/-- Where references are moved, an outdated one is left only in a pair. -/
theorem exists_pair_of_outdated (h : HasRef ref (moveRefs v)) (outdated : isOutdated ref = true) :
    ∃ a b, Within (.pair a b) v ∧ HasRef ref (.pair a b) := by
  induction v using Value.inductionOn with
  | scalar s => exact absurd h (not_hasRef_scalar s)
  | set items =>
    obtain ⟨ms, h, -⟩ := h
    cases h
  | pair a b => exact ⟨a, b, .self, h⟩
  | list items ih =>
    rw [moveRefs_list] at h
    obtain ⟨_, moved, h⟩ := hasRef_list_iff.1 h
    obtain ⟨v, hv, rfl⟩ := List.mem_map.1 moved
    obtain ⟨a, b, hp, hr⟩ := ih v hv h
    exact ⟨a, b, .item hv hp, hr⟩
  | map ms ih =>
    rw [moveRefs, moveRefsOfMembers_eq] at h
    rcases hasRef_map_iff.1 h with hr | ⟨_, moved, h⟩
    · obtain ⟨m, hm, eq⟩ := List.mem_map.1 hr
      have fresh := isOutdated_of_moveMember eq
      rw [outdated] at fresh
      cases fresh
    · obtain ⟨m, hm, rfl⟩ := List.mem_map.1 moved
      rcases reference_or_noRef m with ⟨ref', rfl⟩ | noRef
      · exact absurd h (not_hasRef_scalar _)
      · rw [moveMember_of_str?_eq_none noRef] at h
        obtain ⟨a, b, hp, hr⟩ := ih m hm h
        exact ⟨a, b, .member hm hp, hr⟩

/-! ## Good references -/

/-- All references in a value, at any depth, are good. -/
def AllGood (good : String → Prop) (v : Value) : Prop := ∀ ref, HasRef ref v → good ref

/-- A member with good references only, which may be one itself. -/
structure GoodMember (good : String → Prop) (m : Scalar × Value) : Prop where
  value : AllGood good m.2
  ref : ∀ ref, m = named "$ref" (.str ref) → good ref

theorem AllGood.of_within (h : AllGood good v) (hw : Within u v) : AllGood good u :=
  fun ref ⟨ms, hms, hr⟩ => h ref ⟨ms, hms.trans hw, hr⟩

theorem allGood_map_iff : AllGood good (.map ms) ↔ Keeps (GoodMember good) ms := by
  simp only [AllGood, hasRef_map_iff]
  constructor
  · intro h m hm
    exact ⟨fun ref hr => h ref (.inr ⟨m, hm, hr⟩), fun ref hr => h ref (.inl (hr ▸ hm))⟩
  · rintro h ref (hr | ⟨m, hm, hr⟩)
    · exact (h _ hr).ref ref rfl
    · exact (h m hm).value ref hr

/-- A value has good references if its parts have. -/
theorem inherited_allGood (good : String → Prop) :
    Inherited (AllGood good) (GoodMember good) where
  plain hv ref hr := absurd hr (not_hasRef_of_plain hv)
  list h ref hr := by
    obtain ⟨v, hv, hr⟩ := hasRef_list_iff.1 hr
    exact h v hv ref hr
  map h := allGood_map_iff.2 h
  value h := h.value
  member hv noRef := by
    refine ⟨hv, fun ref hr => ?_⟩
    obtain ⟨rfl, rfl⟩ := Prod.mk.inj hr
    cases noRef rfl

theorem AllGood.typed (h : AllGood good v) : TypedKeeps (GoodMember good) v :=
  fun _ hp => allGood_map_iff.1 (hp ▸ h)

theorem GoodMember.response (h : GoodMember good m) (hu : response m.2 = .ok u) :
    GoodMember good (m.1, u) := by
  obtain ⟨k, v⟩ := m
  cases v with
  | map r =>
    obtain ⟨q, hq, hu⟩ := bind_eq_ok_iff.1 hu
    cases hu
    have members := allGood_map_iff.1 h.value
    have inh := inherited_allGood good
    have kept := inh.responseMembers ⟨members, fun hs hg m hm =>
      (allGood_map_iff.1 (inh.get? members hg) m hm).value.typed⟩ hq
    exact inh.mapMember kept k
  | _ =>
    cases hu
    exact h

/-- What a value yields when it is gone through, stands in it. -/
theorem within_of_mem_items (hi : v.items = .ok items) (hp : .map p ∈ items) :
    Within (.map p) v := by
  have scalars {α : Type} (l : List α) (f : α → Scalar)
      (hl : l.map (fun a => Value.scalar (f a)) = items) : False := by
    obtain ⟨a, -, same⟩ := List.mem_map.1 (hl ▸ hp)
    cases same
  cases v with
  | scalar s =>
    cases s with
    | str s => exact (scalars _ _ (Except.ok.inj hi)).elim
    | bytes data => exact (scalars _ _ (Except.ok.inj hi)).elim
    | _ => cases hi
  | list => exact .item (Except.ok.inj hi ▸ hp) .self
  | pair a b =>
    obtain rfl := Except.ok.inj hi
    simp only [List.mem_cons, List.not_mem_nil, or_false] at hp
    rcases hp with rfl | rfl
    · exact .first .self
    · exact .second .self
  | map ms => exact (scalars _ _ (Except.ok.inj hi)).elim
  | set => exact (scalars _ _ (Except.ok.inj hi)).elim

theorem exists_of_bodyRef? (h : bodyRef? names p = some ref) : ∃ name, ref = bodyRef ++ name := by
  obtain ⟨text, -, h⟩ := Option.bind_eq_some_iff.1 h
  obtain ⟨name, -, h⟩ := Option.bind_eq_some_iff.1 h
  split at h
  · exact ⟨name, (Option.some.inj h).symm⟩
  · cases h

/-! ## Good references in a converted document -/

section Converted

variable (bodies : ∀ name, good (bodyRef ++ name)) {shared : Option Members}

include bodies

theorem AllGood.entry (h : AllGood good (.map p)) : EntryKeeps (AllGood good) names p := by
  refine (inherited_allGood good).entry (allGood_map_iff.1 h) fun ref hr => ?_
  obtain ⟨name, rfl⟩ := exists_of_bodyRef? hr
  refine allGood_map_iff.2 (List.forall_mem_singleton.2 ⟨fun ref hr => ?_, fun ref hr => ?_⟩)
  · exact absurd hr (not_hasRef_scalar _)
  · obtain ⟨-, text⟩ := Prod.mk.inj hr
    cases text
    exact bodies name

theorem AllGood.operation (h : AllGood good (.map ms)) (hs : ∀ b ∈ shared, AllGood good (.map b))
    (hout : operation names shared ms = .ok out) : AllGood good (.map out) := by
  have inh := inherited_allGood good
  have members := allGood_map_iff.1 h
  refine inh.map (inh.operation (fun items hi p hp => ?_) (fun m hm n hn => ?_) hs hout)
  · have listed := inh.getD members "parameters" (inh.plain rfl : AllGood good (.list []))
    exact (listed.of_within (within_of_mem_items hi hp)).entry bodies
  · rcases operationMember_cases hn with ⟨-, rs, out, hrs, hout, rfl⟩ | ⟨-, -, rfl⟩
    · have responses := allGood_map_iff.1 (hrs ▸ (members m hm).value)
      exact inh.mapMember
        (Keeps.of_mapValues hout fun r hr w hw => (responses r hr).response hw) m.1
    · exact members n hm

theorem AllGood.pathItem (h : AllGood good (.map ms)) (hout : pathItem names ms = .ok out) :
    AllGood good (.map out) := by
  have inh := inherited_allGood good
  have members := allGood_map_iff.1 h
  refine inh.map (inh.pathItem (fun items hg p hp => ?_) (fun m hm shared hs n hn => ?_) hout)
  · exact ((inh.get? members hg).of_within (.item hp .self)).entry bodies
  · rcases pathMember_cases hn with ⟨-, op, out, hop, hout, rfl⟩ | ⟨-, -, rfl⟩
    · have own : AllGood good (.map op) := hop ▸ (members m hm).value
      exact inh.member (own.operation bodies hs hout) fun _ => rfl
    · exact members n hm

/-- A document with good references is put together anew with good references. -/
theorem AllGood.assemble {doc : Members} {version : String} (h : AllGood good (.map doc))
    (hout : assemble version doc = .ok out) : AllGood good (.map out) := by
  have inh := inherited_allGood good
  have members := allGood_map_iff.1 h
  have part {name : String} {ms : Members} (hg : doc.get? name = some (.map ms)) :
      Keeps (GoodMember good) ms := allGood_map_iff.1 (inh.get? members hg)
  refine inh.map (inh.assemble ⟨?definitions, ?parameters, ?responses, ?paths, ?schemes, ?beside⟩
    hout)
  case definitions => exact fun v hg => inh.get? members hg
  case parameters => exact fun ms hg m hm => (part hg m hm).value.typed
  case responses => exact fun ms hg m hm u hu => (part hg m hm).response hu
  case paths =>
    intro ms hg m hm item hitem out hout
    have own : AllGood good (.map item) := hitem ▸ (part hg m hm).value
    exact allGood_map_iff.1 (own.pathItem bodies hout)
  case schemes => exact fun ms hg m hm => (part hg m hm).value.typed
  case beside => exact fun m hm _ => members m hm

end Converted

/-! ## What a conversion does with references -/

theorem isOutdated_bodyRef (name : String) : isOutdated (bodyRef ++ name) = false := by
  have split : bodyRef = "#/components/" ++ "requestBodies/" := rfl
  rw [split, String.append_assoc, isOutdated_component]

/-- Moving references changes their heads and nothing else, and is done once and for all.  If a
converted document has an outdated reference, it stands in a pair of the document, too. -/
theorem convert_moves_references (doc : Value) :
    (∀ w, Rewritten doc w ↔ w = moveRefs doc) ∧ moveRefs (moveRefs doc) = moveRefs doc ∧
      ∀ target conv ref, convert doc target = .ok conv → HasRef ref (.map conv) →
        isOutdated ref = true → ∃ a b, Within (.pair a b) doc ∧ HasRef ref (.pair a b) := by
  refine ⟨fun w => rewritten_iff, moveRefs_moveRefs doc, fun target conv ref converts => ?_⟩
  cases doc with
  | map doc =>
    obtain ⟨-, -, assembled⟩ := convert_eq_ok_iff.1 converts
    have moved : AllGood (fun ref => isOutdated ref = true → ∃ a b,
        Within (.pair a b) (.map doc) ∧ HasRef ref (.pair a b)) (moveRefs (.map doc)) :=
      fun ref hr outdated => exists_pair_of_outdated hr outdated
    refine (moved.assemble ?_ assembled) ref
    intro name outdated
    rw [isOutdated_bodyRef] at outdated
    cases outdated
  | _ => cases converts

theorem sameTexts_of_mem_items (h : Value.sameTextsOfItems items items = true) (hv : v ∈ items) :
    v.sameTexts v = true := by
  induction items with
  | nil => cases hv
  | cons w rest ih =>
    obtain ⟨hw, hr⟩ := Bool.and_eq_true_iff.1 h
    rcases List.mem_cons.1 hv with rfl | hv
    · exact hw
    · exact ih hr hv

theorem sameTexts_of_mem_members (h : Value.sameTextsOfMembers ms ms = true) (hm : m ∈ ms) :
    m.2.sameTexts m.2 = true := by
  induction ms with
  | nil => cases hm
  | cons n rest ih =>
    obtain ⟨k, v⟩ := n
    cases k with
    | str s =>
      obtain ⟨-, both⟩ := Bool.and_eq_true_iff.1 h
      obtain ⟨hv, hr⟩ := Bool.and_eq_true_iff.1 both
      rcases List.mem_cons.1 hm with rfl | hm
      · exact hv
      · exact ih hr hm
    | _ => cases h

/-- What is made of texts has no pairs. -/
theorem not_within_pair {a b : Value} (h : v.sameTexts v = true) : ¬Within (.pair a b) v := by
  intro hw
  induction hw with
  | self => cases h
  | item hm _ ih => exact ih (sameTexts_of_mem_items h hm)
  | first => cases h
  | second => cases h
  | member hm _ ih => exact ih (sameTexts_of_mem_members h hm)

/-- A shop that names its main parts, besides. -/
def annotatedShop : Members :=
  named "x-main" (.list [refTo "#/definitions/Pet", refTo "#/parameters/limit"]) :: petShop

theorem convert_moves_references_annotatedShop :
    HasRef "#/definitions/Pet" (.map annotatedShop) ∧
      ∃ conv, convert (.map annotatedShop) "3.0" = .ok conv ∧
        ∀ ref, HasRef ref (.map conv) → isOutdated ref = false := by
  have ok : (convert (.map annotatedShop) "3.0").isOk = true := by decide +kernel
  have texts : (Value.map annotatedShop).sameTexts (.map annotatedShop) = true := by decide +kernel
  obtain ⟨conv, converts⟩ := exists_of_isOk ok
  refine ⟨hasRef_map_iff.2 (.inr ⟨_, List.mem_cons_self, hasRef_list_iff.2 ⟨_, List.mem_cons_self,
    _, .self, List.mem_singleton_self _⟩⟩), conv, converts, fun ref hr => ?_⟩
  by_contra outdated
  obtain ⟨a, b, hw, -⟩ := (convert_moves_references _).2.2 _ conv ref converts hr
    (Bool.not_eq_false _ ▸ outdated)
  exact not_within_pair texts hw

/-- A reference in a pair. -/
def pairedRef : Value := .list [.pair (.str "a") (refTo "#/definitions/P")]

/-- It is outdated, and stays as it is in a converted document. -/
theorem outdated_left_in_pair :
    isOutdated "#/definitions/P" = true ∧
      ∃ conv,
        convert (.ofNamed [("swagger", .str "2.0"), ("x-order", pairedRef)]) "3.0" = .ok conv ∧
        HasRef "#/definitions/P" (.map conv) := by
  have stands : HasRef "#/definitions/P" pairedRef :=
    ⟨_, .item (List.mem_singleton_self _) (.second .self), List.mem_singleton_self _⟩
  refine ⟨by decide, [named "openapi" (.str "3.0.3"), named "info" (.map []),
    named "paths" (.map []), named "x-order" pairedRef], rfl, ?_⟩
  exact hasRef_map_iff.2 (.inr ⟨named "x-order" pairedRef, by simp, stands⟩)

end ApiAccord.Swagger
