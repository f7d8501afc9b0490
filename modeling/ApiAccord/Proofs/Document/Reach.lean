import ApiAccord.Proofs.Document.FiniteUnfolding

/-!
# What resolution depends on

Resolution looks at no document beside those that references on some way from the root lead into:
shelves that have the same documents there give the same answer (`resolve_congr`), strict or
tolerant, whatever else is on them.
-/

namespace ApiAccord.Reference

variable {o : ResolveOptions} {shelf shelf' : Shelf} {start here there : Place} {u v : Value}
  {ms : Members} {ref pointer l : String} {visits : List Visit} {seen : List String} {n : Nat}
  {t : Target}

/-- Some way from the root leads to a reference into the document at a location. -/
def ReachesLocation (o : ResolveOptions) (shelf : Shelf) (start : Place) (l : String) : Prop :=
  ∃ here ref t, Reaches o shelf start here ref ∧ split o here.base ref = .ok t ∧
    t.location = some l

/-- The shelves have the same documents wherever references on the first of them lead. -/
def Agree (o : ResolveOptions) (shelf shelf' : Shelf) (start : Place) : Prop :=
  ∀ l, ReachesLocation o shelf start l → shelf.load l = shelf'.load l

theorem placeOf_congr (h : ∀ l, t.location = some l → shelf.load l = shelf'.load l) :
    placeOf shelf here ref t = placeOf shelf' here ref t := by
  unfold placeOf
  cases hl : t.location with
  | none => rfl
  | some l => simp only [h l hl]

theorem Agree.placeOf_eq (ha : Agree o shelf shelf' start) (hr : Reaches o shelf start here ref)
    (ht : split o here.base ref = .ok t) : placeOf shelf here ref t = placeOf shelf' here ref t :=
  placeOf_congr fun l hl => ha l ⟨here, ref, t, hr, ht, hl⟩

theorem Agree.follow_eq (ha : Agree o shelf shelf' start) (hr : Reaches o shelf start here ref) :
    follow o shelf here seen ref = follow o shelf' here seen ref := by
  rw [Reference.follow_eq, Reference.follow_eq]
  cases ht : split o here.base ref with
  | error stop => rfl
  | ok t => simp only [Except.bind, ha.placeOf_eq hr ht]

theorem Trail.resolveValue_congr (ha : Agree o shelf shelf' start)
    (h : Trail o shelf start visits here v) :
    resolveValue (enter o shelf n here seen) v = resolveValue (enter o shelf' n here seen) v := by
  induction n using Nat.strongRecOn generalizing visits here v seen with
  | ind n ih =>
    refine Reference.resolveValue_congr fun ms ref hx => ?_
    obtain ⟨h, text⟩ := h.exposed hx
    have same : Reference.follow o shelf here seen ref = Reference.follow o shelf' here seen ref :=
      ha.follow_eq ⟨visits, ms, h, text⟩
    cases hf : Reference.follow o shelf here seen ref with
    | error stop =>
      rw [hf] at same
      cases n <;> cases stop <;> simp [enter, hf, ← same]
    | ok a =>
      obtain ⟨w, there, k⟩ := a
      rw [hf] at same
      obtain ⟨pointer, target, -, -⟩ := follow_eq_ok_iff.1 hf
      cases n with
      | zero => simp [enter, hf, ← same]
      | succ n =>
        rw [enter_succ_of_follow_eq_ok hf, enter_succ_of_follow_eq_ok same.symm]
        exact ih n (Nat.lt_succ_self n) (h.follow text target)

/-- Resolution gives the same on shelves that agree where references lead. -/
theorem resolve_congr {base : Option String} {root : Value}
    (ha : Agree o shelf shelf' (startOf o base root)) :
    resolve o shelf base root = resolve o shelf' base root := by
  have enough := resolveValue_enter_of_bound_le (o := o) (startOf o base root)
    (Nat.le_max_left (bound shelf root) (bound shelf' root))
  have enough' := resolveValue_enter_of_bound_le (o := o) (startOf o base root)
    (Nat.le_max_right (bound shelf root) (bound shelf' root))
  have way : Trail o shelf (startOf o base root) [] (startOf o base root) root := .root
  calc resolve o shelf base root
      = resolveValue (enter o shelf (max (bound shelf root) (bound shelf' root))
          (startOf o base root) []) root := enough.symm
    _ = resolveValue (enter o shelf' (max (bound shelf root) (bound shelf' root))
          (startOf o base root) []) root := way.resolveValue_congr ha
    _ = resolve o shelf' base root := enough'

/-- Ways on one shelf are ways on another, if these have the same documents where references on both
lead. -/
theorem Trail.transfer (hc : ∀ l, ReachesLocation o shelf start l →
      ReachesLocation o shelf' start l → shelf.load l = shelf'.load l)
    (h : Trail o shelf start visits here v) : Trail o shelf' start visits here v := by
  induction h with
  | root => exact .root
  | part _ hp ih => exact ih.part hp
  | follow ht text target ih =>
    obtain ⟨t, hs, hp, hd, hv⟩ := target
    rw [placeOf_congr fun l hl =>
      hc l ⟨_, _, t, ⟨_, _, ht, text⟩, hs, hl⟩ ⟨_, _, t, ⟨_, _, ih, text⟩, hs, hl⟩] at hd
    exact ih.follow text ⟨t, hs, hp, hd, hv⟩

theorem agree_of_common (hc : ∀ l, ReachesLocation o shelf start l →
      ReachesLocation o shelf' start l → shelf.load l = shelf'.load l) :
    Agree o shelf shelf' start := by
  rintro l ⟨here, ref, t, ⟨visits, ms, way, text⟩, ht, hl⟩
  exact hc l ⟨here, ref, t, ⟨visits, ms, way, text⟩, ht, hl⟩
    ⟨here, ref, t, ⟨visits, ms, way.transfer hc, text⟩, ht, hl⟩

end ApiAccord.Reference
