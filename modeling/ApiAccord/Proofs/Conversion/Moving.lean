import ApiAccord.Proofs.Conversion.Meaning

/-!
# Moving references and what they lead to

References into the definitions lead from a schema to a schema.  When the definitions are moved as a
whole and the references follow them, a way down a definition stays a way down the moved one
(`walk_moveRefs`), and a moved schema means what the schema meant (`Means.moved`).
-/

namespace ApiAccord.Swagger

open Reference

variable {home ref segment name head rest : String} {doc conv shared ms : Members} {v w t : Value}
  {segments : List String} {k : Scalar}

/-! ## Ways down moved values -/

theorem get?_map {f : Scalar × Value → Scalar × Value} (hf : ∀ m, (f m).1 = m.1) (ms : Members)
    (name : String) :
    Members.get? name (ms.map f) = (Members.get? name ms).map fun v => (f (.str name, v)).2 := by
  induction ms with
  | nil => rfl
  | cons m rest ih =>
    obtain ⟨k, v⟩ := m
    have hk : f (k, v) = (k, (f (k, v)).2) := Prod.ext (hf (k, v)) rfl
    rw [List.map_cons, hk]
    cases k with
    | str s =>
      rw [Members.get?, Members.get?, ih]
      split
      · next hs => rw [beq_iff_eq.1 hs]; rfl
      · rfl
    | _ => exact ih

theorem get?_moveRefsOfMembers (ms : Members) (h : name ≠ "$ref") :
    Members.get? name (moveRefsOfMembers ms) = (ms.get? name).map moveRefs := by
  rw [moveRefsOfMembers_eq, get?_map (f := moveMember) fun _ => rfl]
  have hk : isRefKey (.str name) = false := by
    rw [← Bool.not_eq_true, isRefKey_iff]
    exact fun hs => h (Scalar.str.inj hs)
  simp [moveMember, hk]

theorem itemAt?_map (items : List Value) (i : Int) :
    Pointer.itemAt? (items.map moveRefs) i = (Pointer.itemAt? items i).map moveRefs := by
  simp only [Pointer.itemAt?, List.length_map, List.getElem?_map]
  split
  · split <;> rfl
  · rfl

/-- A step down leads to a text, or it is a step down the moved value. -/
theorem down_moveRefs (h : Pointer.Down segment v w) (hw : w.str? = none) :
    Pointer.Down segment (moveRefs v) (moveRefs w) := by
  cases h with
  | member hg =>
    refine .member ?_
    rw [moveRefsOfMembers_eq, get?_map (f := moveMember) fun _ => rfl, hg, Option.map_some,
      moveMember_of_str?_eq_none fun _ => hw]
  | item hi =>
    rw [moveRefs_list]
    refine .item ?_
    obtain ⟨i, hs, hi⟩ := Option.bind_eq_some_iff.1 hi
    rw [hs, Option.bind_some, itemAt?_map, hi, Option.map_some]

theorem str?_eq_none_of_down (h : Pointer.Down segment v w) : v.str? = none := by
  cases h <;> rfl

theorem walk_moveRefs (ht : t.str? = none) (h : Pointer.walk ref segments v = .ok t) :
    Pointer.walk ref segments (moveRefs v) = .ok (moveRefs t) := by
  induction segments generalizing v with
  | nil => exact Except.ok.inj h ▸ rfl
  | cons segment rest ih =>
    obtain ⟨u, hu, h⟩ := Pointer.walk_cons_eq_ok_iff.1 h
    have notText : u.str? = none := by
      cases rest with
      | nil => exact Except.ok.inj h ▸ ht
      | cons =>
        obtain ⟨_, hd, -⟩ := Pointer.walk_cons_eq_ok_iff.1 h
        exact str?_eq_none_of_down hd
    exact Pointer.walk_cons_eq_ok_iff.2 ⟨moveRefs u, down_moveRefs hu notText, ih h⟩

theorem exists_moveMember_text (k : Scalar) (s : String) :
    ∃ s', (moveMember (k, .str s)).2 = .str s' := by
  cases h : isRefKey k with
  | true => exact ⟨movedRef s, by rw [moveMember, h]; rfl⟩
  | false => exact ⟨s, by rw [moveMember, h]; rfl⟩

theorem exists_down_moveRefs {segment s : String} (h : Pointer.Down segment v (.str s)) :
    ∃ s', Pointer.Down segment (moveRefs v) (.str s') := by
  cases h with
  | member hg =>
    obtain ⟨s', hs⟩ := exists_moveMember_text (.str segment) s
    refine ⟨s', .member ?_⟩
    rw [moveRefsOfMembers_eq, get?_map (f := moveMember) fun _ => rfl, hg, Option.map_some, hs]
  | item hi =>
    obtain ⟨i, hs, hi⟩ := Option.bind_eq_some_iff.1 hi
    rw [moveRefs_list]
    refine ⟨s, .item ?_⟩
    rw [hs, Option.bind_some, itemAt?_map, hi]
    rfl

/-- A way down to a text leads to a text after the move, too. -/
theorem exists_walk_moveRefs {ref s : String} {segments : List String}
    (h : Pointer.walk ref segments v = .ok (.str s)) :
    ∃ s', Pointer.walk ref segments (moveRefs v) = .ok (.str s') := by
  induction segments generalizing v with
  | nil =>
    obtain rfl := Except.ok.inj h
    exact ⟨s, rfl⟩
  | cons segment rest ih =>
    obtain ⟨w, hd, hw⟩ := Pointer.walk_cons_eq_ok_iff.1 h
    cases rest with
    | nil =>
      obtain rfl := Except.ok.inj hw
      obtain ⟨s', hd'⟩ := exists_down_moveRefs hd
      exact ⟨s', Pointer.walk_cons_eq_ok_iff.2 ⟨_, hd', rfl⟩⟩
    | cons =>
      obtain ⟨_, hd', -⟩ := Pointer.walk_cons_eq_ok_iff.1 hw
      obtain ⟨s', hw'⟩ := ih hw
      have step := down_moveRefs hd (str?_eq_none_of_down hd')
      exact ⟨s', Pointer.walk_cons_eq_ok_iff.2 ⟨_, step, hw'⟩⟩

/-! ## References into sections -/

/-- The names that a text of several segments writes. -/
def segmentsOf (path : String) : List String := (Text.splitOn '/' path).map Pointer.unescape

theorem segmentsOf_cons (hs : '/' ∉ name.toList) (ht : '~' ∉ name.toList) :
    segmentsOf (name ++ "/" ++ rest) = name :: segmentsOf rest := by
  rw [segmentsOf, Pointer.splitOn_cons rest hs, List.map_cons, Pointer.unescape_eq_self ht]
  rfl

theorem segmentsOf_single (hs : '/' ∉ name.toList) :
    segmentsOf name = [Pointer.unescape name] := by
  rw [segmentsOf, Pointer.splitOn_single hs]
  rfl

theorem leads_path_iff : Leads doc ("#/" ++ rest) v ↔
    Pointer.walk "" (segmentsOf rest) (.map doc) = .ok v := by
  have split : "#/" ++ rest = "#" ++ ("/" ++ rest) := by
    rw [← String.append_assoc]
    rfl
  constructor
  · rintro ⟨pointer, segments, hr, hs, hw⟩
    obtain rfl := (String.append_right_inj _).1 (split.symm.trans hr)
    rw [Pointer.segments?_of_slash] at hs
    obtain rfl := Option.some.inj hs
    exact Pointer.walk_eq_ok_of_ref "" hw
  · exact fun hw => ⟨"/" ++ rest, segmentsOf rest, split, Pointer.segments?_of_slash rest,
      Pointer.walk_eq_ok_of_ref _ hw⟩

theorem walk_member_iff : Pointer.walk ref (segment :: segments) (.map ms) = .ok v ↔
    ∃ u, ms.get? segment = some u ∧ Pointer.walk ref segments u = .ok v := by
  rw [Pointer.walk_cons_eq_ok_iff]
  constructor
  · rintro ⟨u, ⟨hg⟩, hw⟩
    exact ⟨u, hg, hw⟩
  · rintro ⟨u, hg, hw⟩
    exact ⟨u, .member hg, hw⟩

/-- A reference into a section leads to it and on from there. -/
theorem leads_section_iff (hh : head = "#/" ++ name ++ "/") (hs : '/' ∉ name.toList)
    (ht : '~' ∉ name.toList) : Leads doc (head ++ rest) v ↔
      ∃ u, doc.get? name = some u ∧ Pointer.walk "" (segmentsOf rest) u = .ok v := by
  have split : head ++ rest = "#/" ++ (name ++ "/" ++ rest) := by
    rw [hh, String.append_assoc, String.append_assoc, String.append_assoc]
  rw [split, leads_path_iff, segmentsOf_cons hs ht, walk_member_iff]

theorem leads_definition_iff : Leads doc ("#/definitions/" ++ rest) v ↔
    ∃ u, doc.get? "definitions" = some u ∧ Pointer.walk "" (segmentsOf rest) u = .ok v :=
  leads_section_iff (by rfl) (by decide) (by decide)

theorem leads_component (hh : head = "#/components/" ++ name ++ "/") (hs : '/' ∉ name.toList)
    (ht : '~' ∉ name.toList) (hc : conv.get? "components" = some (.map shared))
    (hg : shared.get? name = some w) (hw : Pointer.walk "" (segmentsOf rest) w = .ok v) :
    Leads conv (head ++ rest) v := by
  have split : head ++ rest = "#/components/" ++ (name ++ "/" ++ rest) := by
    rw [hh, String.append_assoc, String.append_assoc, String.append_assoc]
  have inside : Pointer.walk "" (segmentsOf (name ++ "/" ++ rest)) (.map shared) = .ok v := by
    rw [segmentsOf_cons hs ht]
    exact walk_member_iff.2 ⟨w, hg, hw⟩
  rw [split]
  exact (leads_section_iff (by rfl) (by decide) (by decide)).2 ⟨.map shared, hc, inside⟩

/-! ## Moved texts -/

/-- A reference follows the section that it leads into. -/
theorem movedRef_append {old new : String} (h : (old, new) ∈ refHeads) (rest : String) :
    movedRef (old ++ rest) = new ++ rest := by
  have own : Text.startsWith old (old ++ rest) = true := Text.startsWith_eq_true_iff.2 ⟨rest, rfl⟩
  have apart (head : String) : Text.startsWith head (old ++ rest) =
      head.toList.isPrefixOf (old.toList ++ rest.toList) := by
    rw [Text.startsWith, String.toList_append]
  have found : refHeads.find? (fun h => Text.startsWith h.1 (old ++ rest)) = some (old, new) := by
    simp only [refHeads, List.mem_cons, List.not_mem_nil, or_false, Prod.mk.injEq] at h
    rcases h with ⟨rfl, rfl⟩ | ⟨rfl, rfl⟩ | ⟨rfl, rfl⟩
    · simp [refHeads, own]
    · have first : Text.startsWith "#/definitions/" ("#/parameters/" ++ rest) = false :=
        (apart _).trans rfl
      simp [refHeads, own, first]
    · have first : Text.startsWith "#/definitions/" ("#/responses/" ++ rest) = false :=
        (apart _).trans rfl
      have second : Text.startsWith "#/parameters/" ("#/responses/" ++ rest) = false :=
        (apart _).trans rfl
      simp [refHeads, own, first, second]
  rw [movedRef, found]
  exact congrArg (new ++ ·) (Text.dropFirst_append old rest)

/-! ## Moved schemas -/

/-- What the definitions of a document hold is a schema. -/
theorem schematic_of_leads (placed : documentPart (.map doc) = true)
    (hl : Leads doc ("#/definitions/" ++ rest) v) : schematic v = true := by
  obtain ⟨u, hg, hw⟩ := leads_definition_iff.1 hl
  have hu : membersOf (fun _ => schematic) u = true := memberOfDocument_of_get? placed hg
  exact allRefs_of_walk (allRefs_of_membersOf (fun _ _ h => h) hu) hw

/-- Where references into the definitions can be followed after the move, too, a moved schema means
what the schema meant. -/
theorem Means.moved (movable : Movable doc)
    (follows : ∀ rest t, Leads doc ("#/definitions/" ++ rest) t → t.str? = none →
      Leads conv ("#/components/schemas/" ++ rest) (moveRefs t))
    (hs : schematic v = true) (hv : allRefs (soundRef doc) v = true) (h : Means home doc v w) :
    Means home conv (moveRefs v) w := by
  refine h.induction (motive := fun v w => schematic v = true → allRefs (soundRef doc) v = true →
    Means home conv (moveRefs v) w) (fun s _ _ => .scalar s) (fun a b _ _ => .pair a b)
    (fun items _ _ => .set items) (fun items items' ih hs hv => ?list)
    (fun ms ms' text ih hs hv => ?map) (fun ms ref v w text hl ih hs hv => ?follow) hs hv
  case list =>
    rw [moveRefs_list]
    refine unfolds_list_iff.2 ⟨items', rfl, List.forall₂_map_left_iff.2 ?_⟩
    exact forall₂_imp_of_mem_left ih fun v hm w hw =>
      hw (allRefs_list.1 hs v hm) (allRefs_list.1 hv v hm)
  case map =>
    have noRef := isReference_eq_false_of_sound hv text
    rw [moveRefs_map_of_plain noRef]
    refine (unfolds_map_iff ?_).2 ⟨ms', rfl, List.forall₂_map_left_iff.2 ?_⟩
    · exact refText?_eq_none (isReference_map_moveRefs ms ▸ noRef)
    · exact forall₂_imp_of_mem_left ih fun m hm m' hw =>
        ⟨hw.1, hw.2 ((allRefs_map.1 hs).2 m hm) ((allRefs_map.1 hv).2 m hm)⟩
  case follow =>
    obtain ⟨rfl, leads⟩ := eq_of_refText? hv text
    obtain ⟨hd, -⟩ := allRefs_map.1 hs
    obtain ⟨rest, rfl⟩ := Text.startsWith_eq_true_iff.1 (hd rfl)
    obtain ⟨ref', segments, hw⟩ := hl.exists_walk
    have notText := str?_eq_none_of_isMap (isMap_of_leadsToMapping leads hl)
    have moved : refText? (moveRefsOfMembers [(.str "$ref", .str ("#/definitions/" ++ rest))]) =
        some ("#/components/schemas/" ++ rest) :=
      congrArg some (movedRef_append List.mem_cons_self rest)
    exact means_of_leads moved (follows rest v hl notText)
      (ih (schematic_of_leads movable.placed hl) (allRefs_of_walk movable.sound hw))

end ApiAccord.Swagger
