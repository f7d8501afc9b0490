import ApiAccord.Proofs.Document.Inlining

/-!
# Documents split over several files

References into another document and the mappings that they lead to are two ways to write the same.
Two documents, on two shelves, are resolved in step: wherever a way through the first one leads, a
way through the second one leads to the corresponding node, in which mappings stand in the place of
some references (`InStep`).  So both resolve to the same (`Trail.resolveValue_inStep_iff`).  Ways
are in step through documents with references inlined (`inStep_counterpart`), and through documents
that differ in a section which no reference leads into (`inStep_sameBeside`).
-/

namespace ApiAccord.Reference

/-- For each location of a document, the mappings that texts of references in it lead to. -/
abbrev Leading := Option String → String → Members → Prop

/-! ## Ways in step -/

section InStep

variable (o : ResolveOptions) (leads : Leading) (shelf shelf' : Shelf) (start start' : Place)

/-- Ways from two documents lead through places that correspond, from a reference to nodes that are
the same but for inlined references; and these can be followed. -/
structure InStep (Corr : Place → Place → Prop) : Prop where
  base : ∀ {here here'}, Corr here here' → here'.base = here.base
  forth : ∀ {here here' visits visits' ms ms' ref there pointer v}, Corr here here' →
    Trail o shelf start visits here (.map ms) → Trail o shelf' start' visits' here' (.map ms') →
    refText? ms = some ref → refText? ms' = some ref →
    Designates o shelf here ref there pointer v →
      ∃ there' v', Designates o shelf' here' ref there' pointer v' ∧ Corr there there' ∧
        Inlines (leads there.base) v v'
  back : ∀ {here here' visits visits' ms ms' ref there' pointer v'}, Corr here here' →
    Trail o shelf start visits here (.map ms) → Trail o shelf' start' visits' here' (.map ms') →
    refText? ms = some ref → refText? ms' = some ref →
    Designates o shelf' here' ref there' pointer v' →
      ∃ there v, Designates o shelf here ref there pointer v ∧ Corr there there' ∧
        Inlines (leads there.base) v v'
  inlined : ∀ {visits here ms ref obj}, Trail o shelf start visits here (.map ms) →
    refText? ms = some ref → leads here.base ref obj → refTexts (.map obj) = [] →
      ∃ there pointer, Designates o shelf here ref there pointer (.map obj) ∧
        Visit.key (there, pointer) ∉ visits.map Visit.key

end InStep

variable {o : ResolveOptions} {shelf shelf' : Shelf} {leads : Leading}
  {start start' here here' there there' : Place} {v v' w : Value} {ms ms' : Members}
  {ref pointer : String} {t : Target} {visits visits' : List Visit} {n : Nat}
  {Corr : Place → Place → Prop}

theorem InStep.key_eq (h : InStep o leads shelf shelf' start start' Corr) (hc : Corr there there')
    (pointer : String) : Visit.key (there', pointer) = Visit.key (there, pointer) := by
  rw [Visit.key, Visit.key, h.base hc]

/-- Corresponding nodes are resolved to the same, by induction on the number of references that may
still be followed. -/
theorem Trail.resolveValue_inStep_iff (strict : o.tolerant = false)
    (step : InStep o leads shelf shelf' start start' Corr)
    (h : Trail o shelf start visits here v) (h' : Trail o shelf' start' visits' here' v')
    (hc : Corr here here') (hi : Inlines (leads here.base) v v')
    (hd : (visits.map Visit.key).Nodup) (hn : bound shelf start.root ≤ n + visits.length) :
    resolveValue (enter o shelf n here (visits.map Visit.key)) v = .ok (w, []) ↔
      resolveValue (enter o shelf' n here' (visits.map Visit.key)) v' = .ok (w, []) := by
  induction n using Nat.strongRecOn generalizing visits visits' here here' v v' w with
  | ind n ih =>
    refine hi.resolveValue_iff (fun ms ms' ref w hx hx' => ?_) fun ms ref obj hx leads plain => ?_
    · obtain ⟨way, text⟩ := h.exposed hx
      obtain ⟨way', text'⟩ := h'.exposed hx'
      rw [enter_eq_ok_iff strict, enter_eq_ok_iff strict]
      constructor
      · rintro ⟨m, there, pointer, u, rfl, target, hk, hr⟩
        obtain ⟨there', u', target', hc', hu⟩ := step.forth hc way way' text text' target
        refine ⟨m, there', pointer, u', rfl, target', step.key_eq hc' pointer ▸ hk, ?_⟩
        rw [step.key_eq hc' pointer]
        exact (ih m (Nat.lt_succ_self m) (way.follow text target) (way'.follow text' target') hc' hu
          (List.nodup_cons.2 ⟨hk, hd⟩) (by rw [List.length_cons]; omega)).1 hr
      · rintro ⟨m, there', pointer, u', rfl, target', hk, hr⟩
        obtain ⟨there, u, target, hc', hu⟩ := step.back hc way way' text text' target'
        rw [step.key_eq hc' pointer] at hk hr
        refine ⟨m, there, pointer, u, rfl, target, hk, ?_⟩
        exact (ih m (Nat.lt_succ_self m) (way.follow text target) (way'.follow text' target') hc' hu
          (List.nodup_cons.2 ⟨hk, hd⟩) (by rw [List.length_cons]; omega)).2 hr
    · obtain ⟨way, text⟩ := h.exposed hx
      obtain ⟨there, pointer, target, hk⟩ := step.inlined way text leads plain
      have := way.follow_lt_bound text target hd hk
      exact (enter_eq_ok_iff strict).2 ⟨n - 1, there, pointer, _, by omega, target, hk,
        resolveValue_of_refTexts_eq_nil plain⟩

/-- A strict resolution leaves no references, so that answers without a rest are all there are. -/
theorem eq_ok_iff_of_strict {m : Nat} {seen seen' : List String} (strict : o.tolerant = false)
    (h : ∀ w, resolveValue (enter o shelf n here seen) v = .ok (w, []) ↔
      resolveValue (enter o shelf' m here' seen') v' = .ok (w, [])) (r : Resolved) :
    resolveValue (enter o shelf n here seen) v = .ok r ↔
      resolveValue (enter o shelf' m here' seen') v' = .ok r := by
  obtain ⟨w, left⟩ := r
  constructor
  · intro hr
    obtain rfl : left = [] := left_eq_nil_of_strict strict hr
    exact (h w).1 hr
  · intro hr
    obtain rfl : left = [] := left_eq_nil_of_strict strict hr
    exact (h w).2 hr

/-- Any number of references may be followed, if it is great enough. -/
theorem resolveValue_eq_resolve {base : Option String} {root : Value} (hn : bound shelf root ≤ n) :
    resolveValue (enter o shelf n (startOf o base root) []) root = resolve o shelf base root :=
  resolveValue_enter_of_bound_le (startOf o base root) hn

/-! ## Places and nodes -/

/-- The reference is one into the document at `there`, by this pointer. -/
def PointsInto (o : ResolveOptions) (shelf : Shelf) (here : Place) (ref : String) (there : Place)
    (pointer : String) : Prop :=
  ∃ t, split o here.base ref = .ok t ∧ t.pointer = pointer ∧ placeOf shelf here ref t = .ok there

/-- What can be had wherever references in both lead is related, if anything can be had. -/
def Shelved (o : ResolveOptions) (R : String → Value → Value → Prop) (shelf shelf' : Shelf)
    (start start' : Place) : Prop :=
  ∀ l, ReachesLocation o shelf start l → ReachesLocation o shelf' start' l →
    Together (R l) (shelf.load l) (shelf'.load l)

/-- References in both documents lead to related places, if they lead to any. -/
def SamePlaces (o : ResolveOptions) (shelf shelf' : Shelf) (start start' : Place)
    (Corr : Place → Place → Prop) : Prop :=
  ∀ here here' ref t, Corr here here' → Reaches o shelf start here ref →
    Reaches o shelf' start' here' ref → split o here.base ref = .ok t →
    Together Corr (placeOf shelf here ref t) (placeOf shelf' here' ref t)

/-- Pointers that are used in the first document lead to corresponding nodes. -/
def SameNodes (o : ResolveOptions) (leads : Leading) (shelf : Shelf) (start : Place)
    (Corr : Place → Place → Prop) : Prop :=
  ∀ here ref there there' pointer, Reaches o shelf start here ref →
    PointsInto o shelf here ref there pointer → Corr there there' →
    Together (Inlines (leads there.base)) (Pointer.resolve ref pointer there.root)
      (Pointer.resolve ref pointer there'.root)

theorem placeOf_together {R : Place → Place → Prop} (h : R here here')
    (docs : ∀ l, t.location = some l →
      Together (fun d d' => R ⟨d, some l⟩ ⟨d', some l⟩) (shelf.load l) (shelf'.load l)) :
    Together R (placeOf shelf here ref t) (placeOf shelf' here' ref t) := by
  unfold placeOf
  cases hl : t.location with
  | none => exact .pure h
  | some l =>
    have same := docs l hl
    dsimp only
    generalize shelf.load l = x, shelf'.load l = y at same
    obtain ⟨e, e', rfl, rfl⟩ | ⟨d, d', rfl, rfl, hr⟩ := same.failed_or_ok
    · cases e <;> cases e' <;> exact .error _ _
    · exact .pure hr

/-- Corresponding places in corresponding documents are enough for ways to be in step. -/
theorem inStep_of_places (base : ∀ {here here'}, Corr here here' → here'.base = here.base)
    (places : SamePlaces o shelf shelf' start start' Corr)
    (nodes : SameNodes o leads shelf start Corr)
    (inlined : ∀ {visits here ms ref obj}, Trail o shelf start visits here (.map ms) →
      refText? ms = some ref → leads here.base ref obj → refTexts (.map obj) = [] →
        ∃ there pointer, Designates o shelf here ref there pointer (.map obj) ∧
          Visit.key (there, pointer) ∉ visits.map Visit.key) :
    InStep o leads shelf shelf' start start' Corr where
  base := base
  forth := by
    rintro here here' visits visits' ms ms' ref there _ v h way way' text text' ⟨t, ht, rfl, hp, hv⟩
    have reaches : Reaches o shelf start here ref := ⟨visits, ms, way, text⟩
    obtain ⟨there', hp', hc⟩ :=
      (places here here' ref t h reaches ⟨visits', ms', way', text'⟩ ht).1 there hp
    obtain ⟨v', hv', hr⟩ := (nodes here ref there there' _ reaches ⟨t, ht, rfl, hp⟩ hc).1 v hv
    exact ⟨there', v', ⟨t, by rw [base h, ht], rfl, hp', hv'⟩, hc, hr⟩
  back := by
    rintro here here' visits visits' ms ms' ref there' _ v' h way way' text text'
      ⟨t, ht', rfl, hp', hv'⟩
    have reaches : Reaches o shelf start here ref := ⟨visits, ms, way, text⟩
    have ht : split o here.base ref = .ok t := by rw [← base h, ht']
    obtain ⟨there, hp, hc⟩ :=
      (places here here' ref t h reaches ⟨visits', ms', way', text'⟩ ht).2 there' hp'
    obtain ⟨v, hv, hr⟩ := (nodes here ref there there' _ reaches ⟨t, ht, rfl, hp⟩ hc).2 v' hv'
    exact ⟨there, v, ⟨t, ht, rfl, hp, hv⟩, hc, hr⟩
  inlined := inlined

/-! ## Counterparts -/

/-- The second document is the first one with references inlined, at the same location. -/
structure Counterpart (leads : Leading) (here here' : Place) : Prop where
  base : here'.base = here.base
  root : Inlines (leads here.base) here.root here'.root

/-- No reference on a way from the root has a pointer that leads through a reference. -/
def DirectWays (o : ResolveOptions) (shelf : Shelf) (start : Place) : Prop :=
  ∀ here ref there pointer, Reaches o shelf start here ref →
    PointsInto o shelf here ref there pointer → DirectPointer pointer there.root

/-- References on ways from the root lead to the mappings that `leads` says. -/
def Sound (o : ResolveOptions) (leads : Leading) (shelf : Shelf) (start : Place) : Prop :=
  ∀ here ref obj, Reaches o shelf start here ref → leads here.base ref obj →
    ∃ there pointer, Designates o shelf here ref there pointer (.map obj)

/-- A target without references is not being followed already. -/
theorem Trail.key_notMem_of_refTexts_eq_nil (apart : KeysApart o shelf start)
    (h : Trail o shelf start visits here (.map ms)) (text : refText? ms = some ref)
    (target : Designates o shelf here ref there pointer v) (plain : refTexts v = []) :
    Visit.key (there, pointer) ∉ visits.map Visit.key := by
  intro hk
  obtain ⟨a, ha, hk⟩ := List.mem_map.1 hk
  have same := apart _ _ _ (h.follow text target) a (List.mem_cons_of_mem _ ha) _
    List.mem_cons_self hk
  obtain ⟨_, _, u, hd, hs⟩ := h.passed ha
  rw [same] at hd hs
  obtain rfl := hd.target_eq target
  -- The way goes on from the target to a reference, but there is none.
  cases (refText?_eq_none_of_refTexts (refTexts_eq_nil_of_steps plain hs)).symm.trans text

/-- A document and its counterpart are in step, unless pointers lead through references. -/
theorem inStep_counterpart (apart : KeysApart o shelf start) (direct : DirectWays o shelf start)
    (docs : Shelved o (fun l => Inlines (leads (some l))) shelf shelf' start start')
    (sound : Sound o leads shelf start) :
    InStep o leads shelf shelf' start start' (Counterpart leads) := by
  refine inStep_of_places (fun h => h.base) (fun here here' ref t h reaches reaches' ht => ?_)
    (fun here ref there there' pointer reaches points h => ?_) ?_
  · refine placeOf_together h fun l hl => (docs l ⟨here, ref, t, reaches, ht, hl⟩
      ⟨here', ref, t, reaches', by rw [h.base, ht], hl⟩).mono fun d d' hd => ⟨rfl, hd⟩
  · exact h.root.resolve_rel (direct here ref there pointer reaches points)
  · intro visits here ms ref obj way text leads plain
    obtain ⟨there, pointer, target⟩ := sound here ref obj ⟨visits, ms, way, text⟩ leads
    exact ⟨there, pointer, target, way.key_notMem_of_refTexts_eq_nil apart text target plain⟩

/-- Documents with mappings in the place of references resolve to the same. -/
theorem resolve_inlines_iff {base : Option String} {root root' : Value} {r : Resolved}
    (strict : o.tolerant = false) (apart : KeysApart o shelf (startOf o base root))
    (direct : DirectWays o shelf (startOf o base root))
    (docs : Shelved o (fun l => Inlines (leads (some l))) shelf shelf' (startOf o base root)
      (startOf o base root'))
    (sound : Sound o leads shelf (startOf o base root))
    (hi : Inlines (leads (plainBase o base)) root root') :
    resolve o shelf base root = .ok r ↔ resolve o shelf' base root' = .ok r := by
  have enough := Nat.le_max_left (bound shelf root) (bound shelf' root')
  have enough' := Nat.le_max_right (bound shelf root) (bound shelf' root')
  rw [← resolveValue_eq_resolve enough, ← resolveValue_eq_resolve enough']
  refine eq_ok_iff_of_strict strict (fun w => ?_) r
  exact Trail.resolveValue_inStep_iff strict (inStep_counterpart apart direct docs sound)
    .root .root ⟨rfl, hi⟩ hi List.nodup_nil (Nat.le_add_right_of_le enough)

/-! ## Documents that agree beside a section -/

/-- Equal values, or mappings that agree in all members but one. -/
inductive SameBeside (name : String) : Value → Value → Prop where
  | same (v : Value) : SameBeside name v v
  | map {ms ms' : Members} : (∀ other, other ≠ name → ms.get? other = ms'.get? other) →
      SameBeside name (.map ms) (.map ms')

/-- The pointer does not lead into the section, and not to the whole document either. -/
def LeavesOut (name pointer : String) : Prop :=
  ∀ segments, Pointer.segments? pointer = some segments →
    ∃ segment rest, segments = segment :: rest ∧ segment ≠ name

theorem SameBeside.resolve_iff {name : String} (h : SameBeside name v v')
    (hp : LeavesOut name pointer) :
    Pointer.resolve ref pointer v = .ok w ↔ Pointer.resolve ref pointer v' = .ok w := by
  cases h with
  | same => exact Iff.rfl
  | map hm =>
    rw [Pointer.resolve_eq_ok_iff, Pointer.resolve_eq_ok_iff]
    refine exists_congr fun segments => and_congr_right fun hs => ?_
    obtain ⟨segment, rest, rfl, hn⟩ := hp segments hs
    rw [Pointer.walk, Pointer.walk, Pointer.step, Pointer.step, hm segment hn]

/-- The same place, but for a section of the document at `main`. -/
structure SamePlaceBeside (name : String) (main : Option String) (here here' : Place) : Prop where
  base : here'.base = here.base
  root : here.root = here'.root ∨ here.base = main ∧ SameBeside name here.root here'.root

/-- No reference on a way from the root leads into a section of the document at hand. -/
def WaysLeaveOut (o : ResolveOptions) (shelf : Shelf) (start : Place) (name : String) : Prop :=
  ∀ here ref there pointer, Reaches o shelf start here ref →
    PointsInto o shelf here ref there pointer → there.base = start.base → LeavesOut name pointer

/-- Documents are in step if they agree beside a section that no reference leads into. -/
theorem inStep_sameBeside {name : String} (ways : WaysLeaveOut o shelf start name)
    (docs : Shelved o (fun l d d' => d = d' ∨ some l = start.base ∧ SameBeside name d d') shelf
      shelf' start start') :
    InStep o (fun _ _ _ => False) shelf shelf' start start' (SamePlaceBeside name start.base) := by
  refine inStep_of_places (fun h => h.base) (fun here here' ref t h reaches reaches' ht => ?_)
    (fun here ref there there' pointer reaches points h => ?_) (fun _ _ leads _ => leads.elim)
  · refine placeOf_together h fun l hl => (docs l ⟨here, ref, t, reaches, ht, hl⟩
      ⟨here', ref, t, reaches', by rw [h.base, ht], hl⟩).mono fun d d' hd => ⟨rfl, hd⟩
  · refine .of_iff (fun w => ?_) .refl
    rcases h.root with hr | ⟨hb, hr⟩
    · rw [hr]
    · exact hr.resolve_iff (ways here ref there pointer reaches points hb)

/-! ## References that lead no further -/

/-- The references in the document at hand lead to nodes without references. -/
def LeadsNoFurther (o : ResolveOptions) (shelf : Shelf) (start : Place) : Prop :=
  ∀ ref there pointer v, Reaches o shelf start start ref →
    Designates o shelf start ref there pointer v → refTexts v = []

theorem LeadsNoFurther.trail (h : LeadsNoFurther o shelf start)
    (way : Trail o shelf start visits here v) :
    (visits = [] ∧ here = start) ∨ (∃ a, visits = [a]) ∧ refTexts v = [] := by
  induction way with
  | root => exact .inl ⟨rfl, rfl⟩
  | part _ hp ih =>
    rcases ih with home | ⟨one, plain⟩
    · exact .inl home
    · exact .inr ⟨one, refTexts_eq_nil_of_part hp plain⟩
  | follow way text target ih =>
    rcases ih with ⟨rfl, rfl⟩ | ⟨-, plain⟩
    · exact .inr ⟨⟨_, rfl⟩, h _ _ _ _ ⟨[], _, way, text⟩ target⟩
    · cases (refText?_eq_none_of_refTexts plain).symm.trans text

theorem LeadsNoFurther.reaches (h : LeadsNoFurther o shelf start)
    (hr : Reaches o shelf start here ref) : here = start ∧ ref ∈ refTexts start.root := by
  obtain ⟨visits, ms, way, text⟩ := hr
  rcases h.trail way with ⟨-, rfl⟩ | ⟨-, plain⟩
  · exact ⟨rfl, way.met.2 ref (mem_refTexts_of_refText? text)⟩
  · cases (refText?_eq_none_of_refTexts plain).symm.trans text

theorem LeadsNoFurther.keysApart (h : LeadsNoFurther o shelf start) : KeysApart o shelf start := by
  intro visits here v way a ha b hb _
  rcases h.trail way with ⟨rfl, -⟩ | ⟨⟨c, rfl⟩, -⟩
  · cases ha
  · rw [List.mem_singleton.1 ha, List.mem_singleton.1 hb]

end ApiAccord.Reference
