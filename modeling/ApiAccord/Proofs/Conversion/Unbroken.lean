import ApiAccord.Proofs.Conversion.Commuting
import ApiAccord.Proofs.Conversion.Settled

/-!
# Conversion breaks no reference

A document whose references stand where they can follow what they lead to, and can be followed, is
converted into one whose references can be followed, too.  Nothing is asked of what they lead to, or
of the names of the shared parts, but one thing.  Whether a reference leads to a shared body is told
by its text, without undoing the escapes in it, and so a reference may be taken for one to a
parameter that leads to a body, or the other way round; `recognized` says that this is not so.
-/

namespace ApiAccord.Swagger

open Reference

/-- Whether a reference to a shared parameter, as it is written, is taken for one to a shared body
just if it leads to one. -/
def recognized (doc ms : Members) : Bool :=
  match (refText? ms).bind (Text.stripHead? "#/parameters/") with
  | some segment =>
    match (sharedOf doc).get? (Pointer.unescape segment) with
    | some (.map p) => (bodyNames (sharedOf doc)).any (Scalar.same (.str segment)) == inBody p
    | _ => true
  | none => true

/-- The references in a document stand alone, where they can follow what they lead to, and those to
shared bodies are recognized. -/
structure Traceable (doc : Members) : Prop where
  lone : allRefs loneRef (.map doc) = true
  placed : documentPart (.map doc) = true
  recognized : allRefs (recognized doc) (.map doc) = true

/-- A node of a traceable document that settles. -/
structure Traced (home : String) (doc : Members) (v : Value) : Prop where
  lone : allRefs loneRef v = true
  recognized : allRefs (recognized doc) v = true
  settles : Settles home doc v

variable {home name head target : String} {doc conv ms out : Members} {v u : Value} {k : Scalar}
  {kind : Scalar → Value → Bool}

/-! ## Recognized references -/

/-- Where no name of a shared body needs escapes, all references to shared bodies are recognized. -/
theorem recognized_of_unescaped (distinct : (sharedOf doc).Pairwise fun m n => m.1.same n.1 = false)
    (unescaped : ∀ k ∈ bodyNames (sharedOf doc), isUnescaped k = true) (ms : Members) :
    recognized doc ms = true := by
  unfold recognized
  split
  · next segment _ =>
    split
    · next p hg =>
      rw [beq_iff_eq, ← any_bodyNames distinct hg, Bool.eq_iff_iff, List.any_eq_true,
        List.any_eq_true]
      refine exists_congr fun k => and_congr_right fun hk => ?_
      rw [same_unescape (unescaped k hk)]
    · rfl
  · rfl

theorem Movable.traceable (movable : Movable doc) : Traceable doc where
  lone := allRefs_mono (fun _ => loneRef_of_soundRef) movable.sound
  placed := movable.placed
  recognized := by
    refine allRefs_mono (fun ms _ => recognized_of_unescaped movable.distinct ?_ ms) movable.sound
    intro k hk
    obtain ⟨⟨k', v⟩, hm, hb⟩ := List.mem_filterMap.1 hk
    have same : k' = k := by
      cases v with
      | map p =>
        dsimp only at hb
        split at hb <;> cases hb
        rfl
      | _ => cases hb
    exact same ▸ List.all_eq_true.1 movable.unescaped _ hm

/-! ## Nodes -/

theorem Traced.of_leads (traceable : Traceable doc) {ref : String} (hl : Leads doc ref u)
    (h : Settles home doc u) : Traced home doc u := by
  obtain ⟨ref', segments, hw⟩ := hl.exists_walk
  exact ⟨allRefs_of_walk traceable.lone hw, allRefs_of_walk traceable.recognized hw, h⟩

/-- The members of a mapping of a kind, with moved references, come from members of this kind. -/
theorem Traced.each (h : Traced home doc v) (hk : membersOf kind v = true)
    (hms : moveRefs v = .map ms) : ∀ n ∈ ms, (isRefKey n.1 = true → n.2.str? = none) ∧
      ∃ u, n.2 = moveRefs u ∧ kind n.1 u = true ∧ Traced home doc u := by
  cases v with
  | map us =>
    obtain ⟨hn, each⟩ := Bool.and_eq_true_iff.1 hk
    rw [Bool.not_eq_true'] at hn
    rw [moveRefs_map_of_plain hn] at hms
    obtain rfl := Value.map.inj hms
    obtain ⟨w, means⟩ := h.settles
    obtain ⟨ws, -, hf⟩ := (unfolds_map_iff (refText?_eq_none hn)).1 means
    intro n hmem
    obtain ⟨m, hm, rfl⟩ := List.mem_map.1 hmem
    obtain ⟨m', -, -, hmm⟩ := exists_of_forall₂_of_mem_left hf hm
    refine ⟨fun hkey => ?_, m.2, rfl, List.all_eq_true.1 each m hm,
      (allRefs_map.1 h.lone).2 m hm, (allRefs_map.1 h.recognized).2 m hm, m'.2, hmm⟩
    exact (sameKind_moveRefs m.2).str?.trans (isReference_eq_false_iff.1 hn m hm hkey)
  | list items =>
    rw [moveRefs_list] at hms
    cases hms
  | _ => cases hms

theorem settles_moveRefs_of_plain (hp : plain v = true) : Settles home conv (moveRefs v) :=
  (moveRefs_of_plain hp).symm ▸ settles_of_plain hp

/-- A value whose members are of a kind settles with moved references if each member does. -/
theorem Traced.settles_each (h : Traced home doc v) (hk : membersOf kind v = true)
    (hr : ∀ k u, kind k u = true → Traced home doc u → Settles home conv (moveRefs u)) :
    Settles home conv (moveRefs v) := by
  cases v with
  | map us =>
    have settled : Settled home conv (moveRefsOfMembers us) := by
      intro n hn
      obtain ⟨noRef, u, hu, kindOf, traced⟩ := h.each hk rfl n hn
      exact ⟨hu ▸ hr n.1 u kindOf traced, noRef⟩
    exact settled.settles
  | _ => exact settles_moveRefs_of_plain hk

theorem Traced.item {items : List Value} (h : Traced home doc (.list items)) (hv : v ∈ items) :
    Traced home doc v := by
  obtain ⟨w, means⟩ := h.settles
  obtain ⟨items', -, hf⟩ := unfolds_list_iff.1 means
  obtain ⟨w', -, hw⟩ := exists_of_forall₂_of_mem_left hf hv
  exact ⟨allRefs_list.1 h.lone v hv, allRefs_list.1 h.recognized v hv, w', hw⟩

/-! ## Schemas -/

theorem moveRefs_sharedRef {old new : String} (h : (old, new) ∈ refHeads) (rest : String) :
    moveRefs (.map (refMembers (old ++ rest))) = .map (refMembers (new ++ rest)) := by
  rw [moveRefs_refMembers, movedRef_append h]

section Parts

variable (supplies : Supplies (moveRefsOfMembers doc) conv) (traceable : Traceable doc)

include supplies

/-- A moved reference into the definitions leads to what settles if the part that it led to does
with moved references. -/
theorem settles_definition {rest : String} (hl : Leads doc ("#/definitions/" ++ rest) v)
    (h : Settles home conv (moveRefs v)) :
    Settles home conv (.map (refMembers ("#/components/schemas/" ++ rest))) := by
  cases hs : v.str? with
  | none => exact settles_of_leads (leads_moved_definition supplies hl hs) h
  | some s =>
    obtain ⟨u, hg, hw⟩ := leads_definition_iff.1 hl
    obtain rfl : v = .str s := by
      cases v with
      | scalar t => cases t <;> simp_all [Value.str?]
      | _ => cases hs
    obtain ⟨s', hw'⟩ := exists_walk_moveRefs hw
    refine settles_of_leads (supplies.schema rest (moveRefs u) _ ?_ hw') (settles_of_plain rfl)
    rw [get?_moveRefsOfMembers doc (by decide), hg]
    rfl

include traceable

theorem Traced.schema (h : Traced home doc v) (hs : schematic v = true) :
    Settles home conv (moveRefs v) := by
  obtain ⟨w, means⟩ := h.settles
  refine means.induction (motive := fun v _ => schematic v = true → allRefs loneRef v = true →
    Settles home conv (moveRefs v)) (fun s _ _ => settles_of_plain rfl)
    (fun a b _ _ => ⟨_, .pair a b⟩) (fun items _ _ => settles_of_plain rfl)
    (fun items items' ih hs hv => ?list) (fun ms ms' text ih hs hv => ?map)
    (fun ms ref v w text hl ih hs hv => ?follow) hs h.lone
  case list =>
    rw [moveRefs_list]
    refine settles_list fun u hu => ?_
    obtain ⟨v, hm, rfl⟩ := List.mem_map.1 hu
    obtain ⟨w, -, hw⟩ := exists_of_forall₂_of_mem_left ih hm
    exact hw (allRefs_list.1 hs v hm) (allRefs_list.1 hv v hm)
  case map =>
    have noRef := isReference_eq_false_of_lone hv text
    rw [moveRefs_map_of_plain noRef]
    refine Settled.settles fun n hn => ?_
    obtain ⟨m, hm, rfl⟩ := List.mem_map.1 hn
    obtain ⟨m', -, -, hw⟩ := exists_of_forall₂_of_mem_left ih hm
    exact ⟨hw ((allRefs_map.1 hs).2 m hm) ((allRefs_map.1 hv).2 m hm), fun hk =>
      (sameKind_moveRefs m.2).str?.trans (isReference_eq_false_iff.1 noRef m hm hk)⟩
  case follow =>
    obtain rfl := eq_refMembers_of_lone hv text
    obtain ⟨rest, rfl⟩ := Text.startsWith_eq_true_iff.1 ((allRefs_map.1 hs).1 rfl)
    obtain ⟨ref', segments, hw⟩ := hl.exists_walk
    have target := ih (schematic_of_leads traceable.placed hl) (allRefs_of_walk traceable.lone hw)
    exact moveRefs_sharedRef List.mem_cons_self rest ▸ settles_definition supplies hl target

/-- Members that have schemas under some names, and no references beside. -/
theorem Traced.field {names : List String} (h : Traced home doc v)
    (hk : (if isOneOf names k then schematic v else plain v) = true) :
    Settles home conv (moveRefs v) := by
  split at hk
  · exact h.schema supplies traceable hk
  · exact settles_moveRefs_of_plain hk

theorem Traced.typed (h : Traced home doc v) (ht : typedPart v = true) :
    TypedSettles home conv (moveRefs v) := by
  intro ms hms n hn
  obtain ⟨noRef, u, hu, hk, traced⟩ := h.each ht hms n hn
  exact ⟨hu ▸ traced.field supplies traceable hk, noRef⟩

theorem Traced.settles_typed (h : Traced home doc v) (ht : typedPart v = true) :
    Settles home conv (moveRefs v) :=
  h.settles_each ht fun _ _ hk traced => traced.field supplies traceable hk

/-! ## Responses -/

theorem Traced.responseMembers (h : Traced home doc v) (hr : responsePart v = true)
    (hms : moveRefs v = .map ms) : ResponseSettles home conv ms := by
  have each := h.each hr hms
  refine ⟨fun n hn => ?_, fun hs hg m hm => ?_⟩
  · obtain ⟨noRef, u, hu, hk, traced⟩ := each n hn
    refine ⟨hu ▸ ?_, noRef⟩
    unfold memberOfResponse at hk
    by_cases schema : isOneOf ["schema"] n.1 = true
    · rw [if_pos schema] at hk
      exact traced.schema supplies traceable hk
    rw [if_neg schema] at hk
    by_cases headers : isOneOf ["headers"] n.1 = true
    · rw [if_pos headers] at hk
      exact traced.settles_each hk fun _ _ ht traced =>
        traced.settles_typed supplies traceable ht
    · rw [if_neg headers] at hk
      exact settles_moveRefs_of_plain hk
  · obtain ⟨-, u, hu, hk, traced⟩ := each _ (Members.mem_of_get? hg)
    have headers : membersOf (fun _ => typedPart) u = true := hk
    obtain ⟨-, u', hu', typed, traced'⟩ := traced.each headers hu.symm m hm
    exact hu' ▸ traced'.typed supplies traceable typed

theorem Traced.response (h : Traced home doc v) (hr : responsePart v = true)
    (hw : response (moveRefs v) = .ok u) :
    Settles home conv u ∧ (v.str? = none → u.str? = none) := by
  cases v with
  | map us =>
    obtain ⟨q, hq, hw⟩ := bind_eq_ok_iff.1 hw
    cases hw
    have settled := Settled.responseMembers (h.responseMembers supplies traceable hr rfl) hq
    exact ⟨settled.settles, fun _ => rfl⟩
  | list items =>
    rw [moveRefs_list] at hw
    cases hw
    exact ⟨moveRefs_list items ▸ settles_moveRefs_of_plain hr, fun _ => rfl⟩
  | _ =>
    cases hw
    exact ⟨settles_moveRefs_of_plain hr, id⟩

omit supplies in
/-- A reference to a shared part leads to the member of this name. -/
theorem Traced.sharedRef (h : Traced home doc v) (hs : sharedRef head v = true)
    (hh : head = "#/" ++ name ++ "/") (hn : '/' ∉ name.toList) (ht : '~' ∉ name.toList) :
    ∃ part u t, v = .map (refMembers (head ++ part)) ∧ '/' ∉ part.toList ∧ doc.get? name = some u ∧
      Pointer.Down (Pointer.unescape part) u t ∧ Traced home doc t := by
  obtain ⟨w, means⟩ := h.settles
  obtain ⟨part, u, t, hv, slash, hg, hd, hl, target⟩ := means.sharedRef h.lone hs hh hn ht
  exact ⟨part, u, t, hv, slash, hg, hd, .of_leads traceable hl ⟨w, target⟩⟩

theorem Traced.responseEntry (h : Traced home doc v)
    (he : (Swagger.sharedRef "#/responses/" v || responsePart v) = true)
    (hw : Swagger.response (moveRefs v) = .ok u) :
    Settles home conv u ∧ (v.str? = none → u.str? = none) := by
  rcases Bool.or_eq_true_iff.1 he with hs | hr
  · obtain ⟨part, us, t, rfl, slash, hg, hd, traced⟩ :=
      h.sharedRef traceable hs (by rfl : _ = "#/" ++ "responses" ++ "/") (by decide) (by decide)
    have placed : membersOf (fun _ => responsePart) us = true :=
      memberOfDocument_of_get? traceable.placed hg
    obtain ⟨ms, rfl, response, -, moved, hget⟩ :=
      moved_member hg (by decide) placed supplies.responses hd
    obtain ⟨w, hresponse, hl⟩ := supplies.response part _ _ moved slash hget
    have target := (traced.response supplies traceable response hresponse).1
    have head : ("#/responses/", "#/components/responses/") ∈ refHeads := by decide
    rw [moveRefs_sharedRef head] at hw
    obtain rfl := Except.ok.inj hw
    exact ⟨settles_of_leads hl target, fun _ => rfl⟩
  · exact h.response supplies traceable hr hw

/-! ## Entries of lists of parameters -/

omit supplies traceable in
theorem eq_inBody_of_recognized {segment : String} {p : Members}
    (h : recognized doc (refMembers ("#/parameters/" ++ segment)) = true)
    (hg : (sharedOf doc).get? (Pointer.unescape segment) = some (.map p)) :
    (bodyNames (sharedOf doc)).any (Scalar.same (.str segment)) = inBody p := by
  have text : (refText? (refMembers ("#/parameters/" ++ segment))).bind
      (Text.stripHead? "#/parameters/") = some segment := Text.stripHead?_eq_some_iff.2 rfl
  rw [recognized, text] at h
  dsimp only at h
  rw [hg] at h
  exact beq_iff_eq.1 h

theorem Traced.entry (h : Traced home doc v)
    (he : (Swagger.sharedRef "#/parameters/" v || typedPart v) = true)
    (hms : moveRefs v = .map ms) : EntrySettles home conv (movedBodyNames doc) ms := by
  rcases Bool.or_eq_true_iff.1 he with hs | ht
  · obtain ⟨part, us, t, rfl, slash, hg, hd, traced⟩ :=
      h.sharedRef traceable hs (by rfl : _ = "#/" ++ "parameters" ++ "/") (by decide) (by decide)
    have placed : membersOf (fun _ => typedPart) us = true :=
      memberOfDocument_of_get? traceable.placed hg
    obtain ⟨shared, rfl, typed, hget, moved, hget'⟩ :=
      moved_member hg (by decide) placed supplies.parameters hd
    have isMap := (sameKind_moveRefs t).isMap ▸ supplies.isMap _ _ _ moved hget'
    cases t with
    | map p =>
      have told := eq_inBody_of_recognized ((allRefs_map.1 h.recognized).1 rfl)
        ((sharedOf_eq hg).symm ▸ hget)
      rw [← movedBodyNames_eq, ← inBody_moveRefsOfMembers] at told
      have head : ("#/parameters/", parameterRef) ∈ refHeads := by decide
      rw [moveRefs_sharedRef head] at hms
      obtain rfl := Value.map.inj hms
      have settled : Settled home conv _ := traced.typed supplies traceable typed _ rfl
      cases hb : inBody (moveRefsOfMembers p) with
      | true =>
        have hl := supplies.body part _ _ moved slash hget' hb
        refine ⟨fun ref hr => ?_, fun hr => ?_, fun q hr => ?_⟩
        all_goals rw [bodyRef?_refMembers, told, hb] at hr
        · cases hr
          exact settles_of_leads hl settled.body.settles
        · cases hr
        · cases hr
      | false =>
        obtain ⟨q, hq, hl⟩ := supplies.parameter part _ _ moved slash hget' hb
        refine ⟨fun ref hr => ?_, fun _ inside => ?_, fun q' _ _ hq' => ?_⟩
        · rw [bodyRef?_refMembers, told, hb] at hr
          cases hr
        · rw [inBody_refMembers] at inside
          cases inside
        · rw [parameter_refMembers] at hq'
          cases hq'
          exact settles_of_leads hl (settled.parameter hq).settles
    | _ => cases isMap
  · exact entrySettles_of_settled (h.typed supplies traceable ht ms hms)

theorem Traced.entries {items : List Value} (h : Traced home doc v) (hl : parameterList v = true)
    (hi : (moveRefs v).items = .ok items) {p : Members} (hp : .map p ∈ items) :
    EntrySettles home conv (movedBodyNames doc) p := by
  by_cases isList : ∃ vs, v = .list vs
  · obtain ⟨vs, rfl⟩ := isList
    rw [moveRefs_list] at hi
    obtain rfl := Except.ok.inj hi
    obtain ⟨u, hu, hp⟩ := List.mem_map.1 hp
    exact (h.item hu).entry supplies traceable (List.all_eq_true.1 hl u hu) hp
  · have none : plain v = true := by
      cases v with
      | list vs => exact absurd ⟨vs, rfl⟩ isList
      | _ => exact hl
    rw [moveRefs_of_plain none] at hi
    exact entrySettles_of_settled (settled_of_plain (plain_of_mem_items none hi hp))

/-! ## Operations, path items and documents -/

theorem Traced.operation (h : Traced home doc v) (ho : operationPart v = true)
    (hms : moveRefs v = .map ms) {shared : Option Members}
    (hs : ∀ b ∈ shared, Settles home conv (.map b))
    (hout : operation (movedBodyNames doc) shared ms = .ok out) :
    Settled home conv out := by
  have each := h.each ho hms
  refine (inherited_settles home conv).operation (fun items hi p hp => ?_) (fun m hm n hn => ?_) hs
    hout
  · cases hg : ms.get? "parameters" with
    | none =>
      rw [hg] at hi
      cases hi
      cases hp
    | some w =>
      rw [hg] at hi
      obtain ⟨-, u, rfl, hk, traced⟩ := each _ (Members.mem_of_get? hg)
      have listed : parameterList u = true := hk
      exact traced.entries supplies traceable listed hi hp
  · obtain ⟨noRef, u, hu, hk, traced⟩ := each m hm
    unfold memberOfOperation at hk
    rcases operationMember_cases hn with ⟨responses, rs, out, hrs, hout, rfl⟩ | ⟨hp, hr, rfl⟩
    · rw [responses] at hk
      have entries : membersOf (fun _ w => Swagger.sharedRef "#/responses/" w || responsePart w) u =
        true := hk
      refine ⟨Settled.settles (Keeps.of_mapValues hout fun r hr w hw => ?_), fun _ => rfl⟩
      obtain ⟨noRef, u', hu', entry, traced'⟩ := traced.each entries (hu.symm.trans hrs) r hr
      rw [hu'] at hw noRef
      obtain ⟨settles, text⟩ := traced'.responseEntry supplies traceable entry hw
      exact ⟨settles, fun hk => text ((sameKind_moveRefs u').str?.symm.trans (noRef hk))⟩
    · rw [if_neg (Bool.eq_false_iff.1 hp), if_neg (Bool.eq_false_iff.1 hr)] at hk
      exact ⟨hu ▸ settles_moveRefs_of_plain hk, noRef⟩

theorem Traced.pathItem (h : Traced home doc v) (ho : pathPart v = true)
    (hms : moveRefs v = .map ms) (hout : pathItem (movedBodyNames doc) ms = .ok out) :
    Settled home conv out := by
  have each := h.each ho hms
  refine (inherited_settles home conv).pathItem (fun items hg p hp => ?_)
    (fun m hm shared hs n hn => ?_) hout
  · obtain ⟨-, u, hu, hk, traced⟩ := each _ (Members.mem_of_get? hg)
    have listed : parameterList u = true := hk
    exact traced.entries supplies traceable listed (hu ▸ rfl) hp
  · obtain ⟨noRef, u, hu, hk, traced⟩ := each m hm
    unfold memberOfPath at hk
    rcases pathMember_cases hn with ⟨hm, op, out, hop, hout, rfl⟩ | ⟨other, hp, rfl⟩
    · have beside : isOneOf ["parameters"] m.1 ≠ true := by
        intro hp
        rw [isOneOf_singleton] at hp
        rw [eq_of_isText hp] at hm
        exact absurd hm (by decide)
      rw [if_neg beside, if_pos hm] at hk
      exact ⟨(traced.operation supplies traceable hk (hu.symm.trans hop) hs hout).settles,
        fun _ => rfl⟩
    · rw [if_neg (Bool.eq_false_iff.1 hp)] at hk
      have none : plain u = true := by
        split at hk
        · next hm =>
          have notMap : u.isMap = false := by
            rw [hu, (sameKind_moveRefs u).isMap] at other
            exact other.resolve_left (by simp [hm])
          cases u with
          | map => cases notMap
          | _ => exact hk
        · exact hk
      exact ⟨hu ▸ settles_moveRefs_of_plain none, noRef⟩

/-- The parts of a traceable document that settles, with moved references, settle in the converted
document. -/
theorem Traced.resting (h : Traced home doc (.map doc)) :
    Resting home conv (moveRefsOfMembers doc) := by
  have each := h.each traceable.placed rfl
  have found {name : String} {w : Value}
      (hg : Members.get? name (moveRefsOfMembers doc) = some w) :=
    (each _ (Members.mem_of_get? hg)).2
  refine ⟨fun w hw => ?definitions, fun ms hms m hm => ?parameters,
    fun ms hms m hm u hu => ?responses, fun ms hms m hm item hitem out hout => ?paths,
    fun m hm beside => ?beside⟩
  case definitions =>
    obtain ⟨u, rfl, hk, traced⟩ := found hw
    have schemas : membersOf (fun _ => schematic) u = true := hk
    exact traced.settles_each schemas fun _ _ hs traced => traced.schema supplies traceable hs
  case parameters =>
    obtain ⟨u, hu, hk, traced⟩ := found hms
    have shared : membersOf (fun _ => typedPart) u = true := hk
    obtain ⟨-, w, hw, typed, traced⟩ := traced.each shared hu.symm m hm
    exact hw ▸ traced.typed supplies traceable typed
  case responses =>
    obtain ⟨us, hus, hk, traced⟩ := found hms
    have shared : membersOf (fun _ => responsePart) us = true := hk
    obtain ⟨noRef, w, hw, response, traced⟩ := traced.each shared hus.symm m hm
    rw [hw] at hu noRef
    obtain ⟨settles, text⟩ := traced.response supplies traceable response hu
    exact ⟨settles, fun hk => text ((sameKind_moveRefs w).str?.symm.trans (noRef hk))⟩
  case paths =>
    obtain ⟨us, hus, hk, traced⟩ := found hms
    have paths : membersOf (fun _ => pathPart) us = true := hk
    obtain ⟨-, w, hw, path, traced⟩ := traced.each paths hus.symm m hm
    exact traced.pathItem supplies traceable path (hw.symm.trans hitem) hout
  case beside =>
    obtain ⟨noRef, u, hu, hk, -⟩ := each m hm
    simp only [sections, isOneOf, List.any_cons, List.any_nil, Bool.or_false,
      Bool.or_eq_false_iff] at beside
    obtain ⟨h₁, h₂, h₃, h₄⟩ := beside
    have none : plain u = true := by
      simpa only [memberOfDocument, isOneOf_singleton, h₁, h₂, h₃, h₄, Bool.false_eq_true, if_false]
        using hk
    exact ⟨hu ▸ (moveRefs_of_plain none).symm ▸ none, noRef⟩

end Parts

/-! ## Checked conversions -/

/-- A checked conversion is one whose result settles. -/
theorem convertChecked_eq_ok_iff : convertChecked home (.map doc) target = .ok conv ↔
    convert (.map doc) target = .ok conv ∧ Settles home conv (.map conv) := by
  have resolves : Settles home conv (.map conv) ↔
      ∃ r, resolve ⟨false, false, home⟩ .empty none (.map conv) = .ok r :=
    ⟨fun ⟨w, hw⟩ => ⟨(w, []), resolve_eq_ok_iff_means.2 ⟨rfl, hw⟩⟩,
      fun ⟨r, hr⟩ => ⟨r.1, (resolve_eq_ok_iff_means.1 hr).2⟩⟩
  rw [resolves, convertChecked]
  constructor
  · intro h
    obtain ⟨conv', converts, h⟩ := bind_eq_ok_iff.1 h
    split at h
    · next r hr =>
      cases h
      exact ⟨converts, r, hr⟩
    · cases h
    · cases h
  · rintro ⟨converts, r, hr⟩
    refine bind_eq_ok_iff.2 ⟨conv, converts, ?_⟩
    rw [hr]
    rfl

/-- A document whose references can be followed is converted into one whose references can be
followed, where references to shared bodies are recognized. -/
theorem convertChecked_eq_ok (home target : String) (doc conv : Members) (resolved : Value)
    (left : List RefError) (traceable : Traceable doc)
    (converts : convert (.map doc) target = .ok conv)
    (resolves : resolve (strictly false home) .empty none (.map doc) = .ok (resolved, left)) :
    convertChecked home (.map doc) target = .ok conv := by
  obtain ⟨-, -, assembled⟩ := convert_eq_ok_iff.1 converts
  obtain ⟨-, means⟩ := resolve_eq_ok_iff_means.1 resolves
  have traced : Traced home doc (.map doc) :=
    ⟨traceable.lone, traceable.recognized, resolved, means⟩
  have resting := traced.resting (supplies_of_assemble assembled) traceable
  exact convertChecked_eq_ok_iff.2 ⟨converts, (resting.assemble assembled).settles⟩

/-- A document with names that are written with escapes, for shared parts of every kind but
bodies. -/
def escapedShop : Members :=
  [named "swagger" (.str "2.0"),
    named "paths" (.ofNamed [("/pets", .ofNamed [
      ("parameters", .list [refTo "#/parameters/pet"]),
      ("post", .ofNamed [
        ("parameters", .list [refTo "#/parameters/page~1size"]),
        ("responses", .ofNamed [("200", refTo "#/responses/found~0all")])])])]),
    named "definitions" (.ofNamed [
      ("pet/full", .ofNamed [
        ("properties", .ofNamed [("owner", refTo "#/definitions/owner~0s/name")])]),
      ("owner~s", .ofNamed [("name", .null)])]),
    named "parameters" (.ofNamed [
      ("pet", .ofNamed [("in", .str "body"), ("schema", refTo "#/definitions/pet~1full")]),
      ("page/size", .ofNamed [("in", .str "query"), ("type", .str "integer")])]),
    named "responses" (.ofNamed [("found~all", .ofNamed [
      ("schema", refTo "#/definitions/pet~1full")])])]

theorem traceable_escapedShop : Traceable escapedShop where
  lone := by decide +kernel
  placed := by decide +kernel
  recognized := by decide +kernel

theorem convertChecked_eq_ok_escapedShop :
    Traceable escapedShop ∧ ∃ conv resolved, convert (.map escapedShop) "3.0" = .ok conv ∧
      resolve (strictly false "/") .empty none (.map escapedShop) = .ok (resolved, []) ∧
      convertChecked "/" (.map escapedShop) "3.0" = .ok conv := by
  have converts : (convert (.map escapedShop) "3.0").isOk = true := by decide +kernel
  have resolves : (resolve (strictly false "/") .empty none (.map escapedShop)).isOk = true := by
    decide +kernel
  obtain ⟨conv, hc⟩ := exists_of_isOk converts
  obtain ⟨⟨resolved, left⟩, hr⟩ := exists_of_isOk resolves
  obtain ⟨rfl, -⟩ := resolve_eq_ok_iff_means.1 hr
  exact ⟨traceable_escapedShop, conv, resolved, hc, hr,
    convertChecked_eq_ok "/" "3.0" escapedShop conv resolved [] traceable_escapedShop hc hr⟩

/-- A document with a shared body whose name is written with an escape. -/
def slashedBody : Members :=
  [named "swagger" (.str "2.0"),
    named "paths" (.ofNamed [("/x", .ofNamed [
      ("post", .ofNamed [("parameters", .list [refTo "#/parameters/a~1b"])])])]),
    named "parameters" (.ofNamed [("a/b", .ofNamed [("in", .str "body"), ("name", .str "b")])])]

/-- The reference to it is taken for one to a parameter, which is not there any more. -/
theorem convertChecked_slashedBody :
    allRefs loneRef (.map slashedBody) = true ∧ documentPart (.map slashedBody) = true ∧
      (convert (.map slashedBody) "3.0").isOk = true ∧
      (resolve (strictly false "/") .empty none (.map slashedBody)).isOk = true ∧
      (convertChecked "/" (.map slashedBody) "3.0").isOk = false := by
  decide +kernel

end ApiAccord.Swagger
