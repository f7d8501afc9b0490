import ApiAccord.Proofs.Document.Reach

/-!
# Mappings in the place of references

A reference can be replaced by the mapping that it leads to, if there is no reference in that.
`Inlines leads v w` says that `w` is `v` after some such replacements.  Documents in which mappings
are put in the place of references resolve to the same (`resolve_inlines`), as long as no reference
has its way through one of those: pointers do not follow references (`Direct`).
-/

namespace ApiAccord

namespace Reference

/-! ## Values without references -/

section Plain

variable {o : ResolveOptions} {shelf : Shelf} {here there : Place} {u v w : Value} {ms : Members}
  {f : Members → String → Except Stop Resolved}

theorem refTexts_eq_nil_of_part (hp : Part u v) (h : refTexts u = []) : refTexts v = [] :=
  List.eq_nil_iff_forall_not_mem.2 fun _ hr => List.not_mem_nil (h ▸ hp.refTexts hr)

theorem refText?_eq_none_of_refTexts (h : refTexts (.map ms) = []) : refText? ms = none := by
  cases text : refText? ms with
  | none => rfl
  | some ref => exact absurd (h ▸ mem_refTexts_of_refText? text) List.not_mem_nil

theorem refTexts_list_eq_nil {items : List Value} (h : ∀ v ∈ items, refTexts v = []) :
    refTexts (.list items) = [] := by
  rw [refTexts]
  induction items with
  | nil => rfl
  | cons v rest ih =>
    rw [refTextsOfItems, h v List.mem_cons_self, List.nil_append]
    exact ih fun w hw => h w (List.mem_cons_of_mem v hw)

theorem refTexts_map_eq_nil (text : refText? ms = none) (h : ∀ m ∈ ms, refTexts m.2 = []) :
    refTexts (.map ms) = [] := by
  rw [refTexts, text]
  clear text
  induction ms with
  | nil => rfl
  | cons m rest ih =>
    rw [refTextsOfMembers, h m List.mem_cons_self, List.nil_append]
    exact ih fun n hn => h n (List.mem_cons_of_mem m hn)

/-- A value without references stays as it is. -/
theorem resolveValue_of_refTexts_eq_nil (h : refTexts v = []) : resolveValue f v = .ok (v, []) := by
  induction v using Value.inductionOn with
  | scalar | pair | set => rfl
  | list items ih =>
    refine resolveValue_list_eq_ok_iff.2 ⟨items, rfl, List.forall₂_same.2 fun v hv => ?_⟩
    exact ih v hv (refTexts_eq_nil_of_part (.item hv) h)
  | map ms ih =>
    have plain := refText?_eq_none_of_refTexts h
    refine (resolveValue_map_eq_ok_iff plain).2 ⟨ms, rfl, List.forall₂_same.2 fun m hm => ?_⟩
    exact ⟨rfl, ih m hm (refTexts_eq_nil_of_part (.member plain hm) h)⟩

/-- A document without references is resolved to itself. -/
theorem resolve_of_refTexts_eq_nil {base : Option String} (h : refTexts v = []) :
    resolve o shelf base v = .ok (v, []) :=
  resolveValue_of_refTexts_eq_nil h

theorem refTexts_eq_nil_of_steps (h : refTexts v = [])
    (hs : Relation.ReflTransGen (Step o shelf) (here, v) (there, w)) : refTexts w = [] := by
  suffices ∀ b, Relation.ReflTransGen (Step o shelf) (here, v) b → refTexts b.2 = [] from
    this (there, w) hs
  intro b hs
  induction hs with
  | refl => exact h
  | tail _ step ih =>
    cases step with
    | part hp => exact refTexts_eq_nil_of_part hp ih
    | ref text => cases (refText?_eq_none_of_refTexts ih).symm.trans text

end Plain

/-! ## Inlining -/

/-- `w` is `v` with some references replaced by mappings that they lead to and in which there is no
reference.  What stands beside the text of a reference does not matter. -/
inductive Inlines (leads : String → Members → Prop) : (v w : Value) → Prop where
  | refl (v : Value) : Inlines leads v v
  | list {items items' : List Value} (length : items.length = items'.length)
    (each : ∀ i (h : i < items.length) (h' : i < items'.length),
      Inlines leads (items.get ⟨i, h⟩) (items'.get ⟨i, h'⟩)) :
    Inlines leads (.list items) (.list items')
  | map {ms ms' : Members} (length : ms.length = ms'.length)
    (keys : ∀ i (h : i < ms.length) (h' : i < ms'.length), (ms.get ⟨i, h⟩).1 = (ms'.get ⟨i, h'⟩).1)
    (each : ∀ i (h : i < ms.length) (h' : i < ms'.length),
      Inlines leads (ms.get ⟨i, h⟩).2 (ms'.get ⟨i, h'⟩).2) :
    Inlines leads (.map ms) (.map ms')
  | sameText {ms ms' : Members} {ref : String} (text : refText? ms = some ref)
    (text' : refText? ms' = some ref) : Inlines leads (.map ms) (.map ms')
  | ref {ms obj : Members} {ref : String} (text : refText? ms = some ref) (target : leads ref obj)
    (plain : refTexts (.map obj) = []) : Inlines leads (.map ms) (.map obj)

/-- The members of the second mapping are those of the first with references inlined. -/
abbrev MembersInline (leads : String → Members → Prop) : Members → Members → Prop :=
  Members.Rel fun _ => Inlines leads

/-- The value is no reference. -/
def NoReference (v : Value) : Prop := ∀ ms, v = .map ms → refText? ms = none

section Inlines

variable {leads : String → Members → Prop} {v v' w w' : Value} {items items' : List Value}
  {ms ms' : Members} {ref segment : String} {segments : List String}

theorem inlines_list_iff : Inlines leads (.list items) w ↔
    ∃ items', w = .list items' ∧ List.Forall₂ (Inlines leads) items items' := by
  constructor
  · intro h
    cases h with
    | refl => exact ⟨items, rfl, List.forall₂_same.2 fun v _ => .refl v⟩
    | list length each => exact ⟨_, rfl, List.forall₂_iff_get.2 ⟨length, each⟩⟩
  · rintro ⟨items', rfl, h⟩
    obtain ⟨length, each⟩ := List.forall₂_iff_get.1 h
    exact .list length each

theorem MembersInline.inlines (h : MembersInline leads ms ms') :
    Inlines leads (.map ms) (.map ms') := by
  obtain ⟨length, each⟩ := List.forall₂_iff_get.1 h
  exact .map length (fun i h h' => (each i h h').1) (fun i h h' => (each i h h').2)

theorem Inlines.str?_eq (h : Inlines leads v w) : v.str? = w.str? := by
  cases h <;> rfl

theorem MembersInline.refText?_eq (h : MembersInline leads ms ms') :
    refText? ms = refText? ms' := by
  have member := h.get? "$ref"
  unfold refText?
  generalize ms.get? "$ref" = x at *
  generalize ms'.get? "$ref" = y at *
  cases member with
  | none => rfl
  | some hr => exact hr.str?_eq

/-- A mapping is inlined, or stays a reference with the same text or none. -/
theorem Inlines.map_cases (h : Inlines leads (.map ms) w) :
    (∃ ms', w = .map ms' ∧ refText? ms = refText? ms' ∧
        (refText? ms = none → MembersInline leads ms ms')) ∨
      ∃ ref obj, refText? ms = some ref ∧ leads ref obj ∧ refTexts (.map obj) = [] ∧
        w = .map obj := by
  cases h with
  | refl => exact .inl ⟨ms, rfl, rfl, fun _ => .refl (fun _ => .refl) ms⟩
  | map length keys each =>
    have members : MembersInline leads ms _ :=
      List.forall₂_iff_get.2 ⟨length, fun i h h' => ⟨keys i h h', each i h h'⟩⟩
    exact .inl ⟨_, rfl, members.refText?_eq, fun _ => members⟩
  | sameText text text' =>
    refine .inl ⟨_, rfl, text.trans text'.symm, fun plain => ?_⟩
    cases plain.symm.trans text
  | ref text target plain => exact .inr ⟨_, _, text, target, plain, rfl⟩

theorem NoReference.members (plain : NoReference (.map ms)) (h : Inlines leads (.map ms) w) :
    ∃ ms', w = .map ms' ∧ MembersInline leads ms ms' := by
  obtain ⟨ms', hw, -, members⟩ | ⟨ref, -, text, -⟩ := h.map_cases
  · exact ⟨ms', hw, members (plain ms rfl)⟩
  · cases (plain ms rfl).symm.trans text

theorem itemAt?_rel (h : List.Forall₂ (Inlines leads) items items') (i : Int) :
    Option.Rel (Inlines leads) (Pointer.itemAt? items i) (Pointer.itemAt? items' i) := by
  have each : ∀ n : Nat, Option.Rel (Inlines leads) items[n]? items'[n]? := by
    intro n
    induction h generalizing n with
    | nil => exact .none
    | cons hr _ ih =>
      cases n with
      | zero => exact .some hr
      | succ n => exact ih n
  unfold Pointer.itemAt?
  rw [← h.length_eq]
  split
  · split
    · exact each _
    · exact .none
  · exact each _

/-- A way down that does not lead through a reference leads to corresponding nodes. -/
theorem Inlines.step_rel (h : Inlines leads v v') (plain : NoReference v) (ref segment : String) :
    Together (Inlines leads) (Pointer.step ref segment v) (Pointer.step ref segment v') := by
  cases v with
  | map ms =>
    obtain ⟨ms', rfl, hm⟩ := plain.members h
    have member := hm.get? segment
    rw [Pointer.step, Pointer.step]
    generalize Members.get? segment ms = x, Members.get? segment ms' = y at member ⊢
    cases member with
    | some hr => exact .pure hr
    | none => exact .error _ _
  | list items =>
    obtain ⟨items', rfl, hi⟩ := inlines_list_iff.1 h
    have item : Option.Rel (Inlines leads) ((Text.integer? segment).bind (Pointer.itemAt? items))
        ((Text.integer? segment).bind (Pointer.itemAt? items')) := by
      cases Text.integer? segment with
      | none => exact .none
      | some i => exact itemAt?_rel hi i
    rw [Pointer.step, Pointer.step]
    generalize (Text.integer? segment).bind (Pointer.itemAt? items) = x,
      (Text.integer? segment).bind (Pointer.itemAt? items') = y at item ⊢
    cases item with
    | some hr => exact .pure hr
    | none => exact .error _ _
  | scalar | pair | set => cases h; exact .error _ _

/-- No segment but the last leads to a reference. -/
def Direct : List String → Value → Prop
  | [], _ => True
  | segment :: rest, v => NoReference v ∧ ∀ w, Pointer.Down segment v w → Direct rest w

theorem Inlines.walk_rel (h : Inlines leads v v') (direct : Direct segments v) :
    Together (Inlines leads) (Pointer.walk ref segments v) (Pointer.walk ref segments v') := by
  induction segments generalizing v v' with
  | nil => exact .pure h
  | cons segment rest ih =>
    have step : Together (fun u u' => Inlines leads u u' ∧ Direct rest u)
        (Pointer.step ref segment v) (Pointer.step ref segment v') := by
      obtain ⟨forth, back⟩ := h.step_rel direct.1 ref segment
      have further : ∀ u, Pointer.step ref segment v = .ok u → Direct rest u :=
        fun u hu => direct.2 u (Pointer.step_eq_ok_iff.1 hu)
      exact ⟨forth.of_ok fun u _ hu _ hr => ⟨hr, further u hu⟩,
        back.of_ok fun _ u _ hu hr => ⟨hr, further u hu⟩⟩
    exact .bind step fun u u' hu => ih hu.1 hu.2

/-- The pointer does not lead through a reference. -/
def DirectPointer (pointer : String) (root : Value) : Prop :=
  ∀ segments, Pointer.segments? pointer = some segments → Direct segments root

theorem Inlines.resolve_rel (h : Inlines leads v v') {pointer : String}
    (direct : DirectPointer pointer v) :
    Together (Inlines leads) (Pointer.resolve ref pointer v) (Pointer.resolve ref pointer v') := by
  constructor
  · intro w hw
    obtain ⟨segments, hs, hw⟩ := Pointer.resolve_eq_ok_iff.1 hw
    obtain ⟨w', hw', hr⟩ := (h.walk_rel (direct segments hs)).1 w hw
    exact ⟨w', Pointer.resolve_eq_ok_iff.2 ⟨segments, hs, hw'⟩, hr⟩
  · intro w' hw'
    obtain ⟨segments, hs, hw'⟩ := Pointer.resolve_eq_ok_iff.1 hw'
    obtain ⟨w, hw, hr⟩ := (h.walk_rel (direct segments hs)).2 w' hw'
    exact ⟨w, Pointer.resolve_eq_ok_iff.2 ⟨segments, hs, hw⟩, hr⟩

/-! ## Resolving a value with inlined references -/

variable {f g : Members → String → Except Stop Resolved}

/-- If corresponding references are resolved alike, and the inlined ones to what is in their place,
values are resolved alike. -/
theorem Inlines.resolveValue_iff (h : Inlines leads v v')
    (refs : ∀ ms ms' ref w, Exposed v ms ref → Exposed v' ms' ref →
      (f ms ref = .ok (w, []) ↔ g ms' ref = .ok (w, [])))
    (inlined : ∀ ms ref obj, Exposed v ms ref → leads ref obj → refTexts (.map obj) = [] →
      f ms ref = .ok (.map obj, [])) :
    resolveValue f v = .ok (w, []) ↔ resolveValue g v' = .ok (w, []) := by
  induction v using Value.inductionOn generalizing v' w with
  | scalar | pair | set => cases h; exact Iff.rfl
  | list items ih =>
    obtain ⟨items', rfl, hi⟩ := inlines_list_iff.1 h
    rw [resolveValue_list_eq_ok_iff, resolveValue_list_eq_ok_iff]
    refine exists_congr fun ws => and_congr_right fun _ => ?_
    refine forall₂_congr_of_forall₂ hi fun v hv v' hv' hr w => ih v hv hr ?_ ?_
    · exact fun ms ms' ref w hx hx' =>
        refs ms ms' ref w (.part (.item hv) hx) (.part (.item hv') hx')
    · exact fun ms ref obj hx => inlined ms ref obj (.part (.item hv) hx)
  | map ms ih =>
    obtain ⟨ms', rfl, texts, members⟩ | ⟨ref, obj, text, target, plain, rfl⟩ := h.map_cases
    · cases text : refText? ms with
      | some ref =>
        have text' := texts.symm.trans text
        rw [resolveValue_ref text, resolveValue_ref text']
        exact refs ms ms' ref w (.here text) (.here text')
      | none =>
        have text' := texts.symm.trans text
        rw [resolveValue_map_eq_ok_iff text, resolveValue_map_eq_ok_iff text']
        refine exists_congr fun ws => and_congr_right fun _ => ?_
        refine forall₂_congr_of_forall₂ (members text) fun m hv m' hv' hr w => ?_
        rw [hr.1]
        refine and_congr_right fun _ => ih m hv hr.2 ?_ ?_
        · exact fun ms ms' ref w hx hx' =>
            refs ms ms' ref w (.part (.member text hv) hx) (.part (.member text' hv') hx')
        · exact fun ms ref obj hx => inlined ms ref obj (.part (.member text hv) hx)
    · rw [resolveValue_ref text, inlined ms ref obj (.here text) target plain,
        resolveValue_of_refTexts_eq_nil plain]

end Inlines

end Reference

end ApiAccord
