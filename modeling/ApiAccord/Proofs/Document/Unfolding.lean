import ApiAccord.Document.Reference
import ApiAccord.Proofs.Correspondence
import ApiAccord.Proofs.Document.Pointer
import Mathlib.Data.List.Forall2
import Mathlib.Logic.Relation

/-!
# Unfolding references

What a document means when every reference in it is replaced by what it leads to, stated without a
search: `Unfolds o shelf here v w` says that `v`, a node of the document at `here`, unfolds to `w`.
A `Trail` is a way from the root of a document to a node that goes into items and members and
follows references; it lists the targets of the references followed, latest first.

A node that unfolds lies on no cycle (`Unfolds.acc`), so that no way from it comes back to a target
that it has passed (`Trail.nodup`).
-/

namespace ApiAccord.Reference

/-! ## Targets -/

section Targets

variable (o : ResolveOptions) (shelf : Shelf)

/-- The reference `ref`, in the document at `here`, leads to the node `v` of the document at
`there`, by this pointer. -/
def Designates (here : Place) (ref : String) (there : Place) (pointer : String) (v : Value) :
    Prop :=
  ∃ t, split o here.base ref = .ok t ∧ t.pointer = pointer ∧
    placeOf shelf here ref t = .ok there ∧ Pointer.resolve ref pointer there.root = .ok v

/-- The reference breaks the reader: its location is none, or the document there is malformed. -/
def Breaks (here : Place) (ref : String) (m : Malformed) : Prop :=
  split o here.base ref = .error (.malformed m) ∨
    ∃ t, split o here.base ref = .ok t ∧ placeOf shelf here ref t = .error (.malformed m)

end Targets

/-- A target that is being followed: a document, and a pointer into it. -/
abbrev Visit := Place × String

/-- The key under which a target is remembered. -/
def Visit.key (a : Visit) : String := a.1.base.getD "" ++ "#" ++ a.2

/-! ## Unfolding -/

/-- `v` is an item or a member of `u`, and `u` is no reference. -/
inductive Part : (u v : Value) → Prop where
  | item {items : List Value} {v : Value} : v ∈ items → Part (.list items) v
  | member {ms : Members} {m : Scalar × Value} :
    refText? ms = none → m ∈ ms → Part (.map ms) m.2

section Unfolding

variable (o : ResolveOptions) (shelf : Shelf)

/-- A node of the document at a place unfolds to a value. -/
inductive Unfolds : Place → Value → Value → Prop where
  | scalar {here : Place} (s : Scalar) : Unfolds here (.scalar s) (.scalar s)
  | pair {here : Place} (a b : Value) : Unfolds here (.pair a b) (.pair a b)
  | set {here : Place} (items : List Scalar) : Unfolds here (.set items) (.set items)
  | list {here : Place} {items items' : List Value} (length : items.length = items'.length)
    (each : ∀ i (h : i < items.length) (h' : i < items'.length),
      Unfolds here (items.get ⟨i, h⟩) (items'.get ⟨i, h'⟩)) :
    Unfolds here (.list items) (.list items')
  | map {here : Place} {ms ms' : Members} (plain : refText? ms = none)
    (length : ms.length = ms'.length)
    (keys : ∀ i (h : i < ms.length) (h' : i < ms'.length), (ms.get ⟨i, h⟩).1 = (ms'.get ⟨i, h'⟩).1)
    (each : ∀ i (h : i < ms.length) (h' : i < ms'.length),
      Unfolds here (ms.get ⟨i, h⟩).2 (ms'.get ⟨i, h'⟩).2) :
    Unfolds here (.map ms) (.map ms')
  | ref {here there : Place} {ms : Members} {ref pointer : String} {v w : Value}
    (text : refText? ms = some ref) (target : Designates o shelf here ref there pointer v)
    (unfolds : Unfolds there v w) : Unfolds here (.map ms) w

/-- One step of a way through documents: to a part, or along a reference. -/
inductive Step : Place × Value → Place × Value → Prop where
  | part {here : Place} {u v : Value} : Part u v → Step (here, u) (here, v)
  | ref {here there : Place} {ms : Members} {ref pointer : String} {v : Value} :
    refText? ms = some ref → Designates o shelf here ref there pointer v →
      Step (here, .map ms) (there, v)

/-- A way from the root of the document at `start` to a node, with the targets of the references
that it follows, latest first. -/
inductive Trail (start : Place) : List Visit → Place → Value → Prop where
  | root : Trail start [] start start.root
  | part {visits : List Visit} {here : Place} {u v : Value} :
    Trail start visits here u → Part u v → Trail start visits here v
  | follow {visits : List Visit} {here there : Place} {ms : Members} {ref pointer : String}
    {v : Value} : Trail start visits here (.map ms) → refText? ms = some ref →
      Designates o shelf here ref there pointer v →
        Trail start ((there, pointer) :: visits) there v

/-- Some way from the root leads to a reference with this text in the document at `here`. -/
def Reaches (start here : Place) (ref : String) : Prop :=
  ∃ visits ms, Trail o shelf start visits here (.map ms) ∧ refText? ms = some ref

/-- Different targets on one way from the root have different keys. -/
def KeysApart (start : Place) : Prop :=
  ∀ visits here v, Trail o shelf start visits here v →
    ∀ a ∈ visits, ∀ b ∈ visits, Visit.key a = Visit.key b → a = b

end Unfolding

variable {o : ResolveOptions} {shelf : Shelf} {start here there : Place} {u v w : Value}
  {ms : Members} {ref pointer : String} {visits : List Visit}

/-! ## Items and members one by one -/

theorem unfolds_list_iff {items : List Value} :
    Unfolds o shelf here (.list items) w ↔
      ∃ items', w = .list items' ∧ List.Forall₂ (Unfolds o shelf here) items items' := by
  constructor
  · intro h
    cases h with
    | list length each => exact ⟨_, rfl, List.forall₂_iff_get.2 ⟨length, each⟩⟩
  · rintro ⟨items', rfl, h⟩
    obtain ⟨length, each⟩ := List.forall₂_iff_get.1 h
    exact .list length each

/-- Members with the same key, the one unfolding to the other. -/
def MemberUnfolds (o : ResolveOptions) (shelf : Shelf) (here : Place) (m m' : Scalar × Value) :
    Prop :=
  m.1 = m'.1 ∧ Unfolds o shelf here m.2 m'.2

theorem unfolds_map_iff (plain : refText? ms = none) :
    Unfolds o shelf here (.map ms) w ↔
      ∃ ms', w = .map ms' ∧ List.Forall₂ (MemberUnfolds o shelf here) ms ms' := by
  constructor
  · intro h
    cases h with
    | map _ length keys each =>
      exact ⟨_, rfl, List.forall₂_iff_get.2 ⟨length, fun i h h' => ⟨keys i h h', each i h h'⟩⟩⟩
    | ref text => rw [plain] at text; cases text
  · rintro ⟨ms', rfl, h⟩
    obtain ⟨length, each⟩ := List.forall₂_iff_get.1 h
    exact .map plain length (fun i h h' => (each i h h').1) (fun i h h' => (each i h h').2)

theorem Unfolds.part (hu : Unfolds o shelf here u w) (hp : Part u v) :
    ∃ w', Unfolds o shelf here v w' := by
  cases hp with
  | item hv =>
    obtain ⟨items', -, h⟩ := unfolds_list_iff.1 hu
    obtain ⟨w', -, hw⟩ := exists_of_forall₂_of_mem_left h hv
    exact ⟨w', hw⟩
  | member plain hm =>
    obtain ⟨ms', -, h⟩ := (unfolds_map_iff plain).1 hu
    obtain ⟨m', -, hw⟩ := exists_of_forall₂_of_mem_left h hm
    exact ⟨m'.2, hw.2⟩

theorem Unfolds.designates (hu : Unfolds o shelf here (.map ms) w) (text : refText? ms = some ref) :
    ∃ there pointer v, Designates o shelf here ref there pointer v ∧ Unfolds o shelf there v w := by
  cases hu with
  | map plain => rw [plain] at text; cases text
  | ref text' target unfolds =>
    obtain rfl := Option.some.inj (text.symm.trans text')
    exact ⟨_, _, _, target, unfolds⟩

/-! ## Nothing that unfolds lies on a cycle -/

theorem Designates.target_eq {here' : Place} {ref' : String}
    (h : Designates o shelf here ref there pointer v)
    (h' : Designates o shelf here' ref' there pointer w) : v = w := by
  obtain ⟨-, -, -, -, h⟩ := h
  obtain ⟨-, -, -, -, h'⟩ := h'
  exact Except.ok.inj (h.symm.trans (Pointer.resolve_eq_ok_of_ref ref h'))

theorem Designates.unique {there' : Place} {pointer' : String}
    (h : Designates o shelf here ref there pointer v)
    (h' : Designates o shelf here ref there' pointer' w) :
    there = there' ∧ pointer = pointer' ∧ v = w := by
  obtain ⟨t, hs, hp, hd, hv⟩ := id h
  obtain ⟨t', hs', hp', hd', hv'⟩ := id h'
  obtain rfl := Except.ok.inj (hs.symm.trans hs')
  obtain rfl := Except.ok.inj (hd.symm.trans hd')
  subst hp hp'
  exact ⟨rfl, rfl, h.target_eq h'⟩

/-- From a node that unfolds, every way through documents ends. -/
theorem Unfolds.acc (h : Unfolds o shelf here v w) :
    Acc (fun b a => Step o shelf a b) (here, v) := by
  induction h with
  | scalar | pair | set =>
    refine .intro _ fun b hb => ?_
    cases hb with
    | part h => cases h
  | list length _ ih =>
    refine .intro _ fun b hb => ?_
    cases hb with
    | part h =>
      cases h with
      | item hv =>
        obtain ⟨i, rfl⟩ := List.get_of_mem hv
        exact ih i i.2 (length ▸ i.2)
  | map plain length _ _ ih =>
    refine .intro _ fun b hb => ?_
    cases hb with
    | part h =>
      cases h with
      | member _ hm =>
        obtain ⟨i, rfl⟩ := List.get_of_mem hm
        exact ih i i.2 (length ▸ i.2)
    | ref text => rw [plain] at text; cases text
  | ref text target _ ih =>
    refine .intro _ fun b hb => ?_
    cases hb with
    | part h =>
      cases h with
      | member plain => rw [plain] at text; cases text
    | ref text' target' =>
      obtain rfl := Option.some.inj (text.symm.trans text')
      obtain ⟨rfl, rfl, rfl⟩ := target.unique target'
      exact ih

/-- An element from which all ways end does not come back to itself. -/
theorem not_transGen_self_of_acc {α : Type*} {r : α → α → Prop} {a : α} (h : Acc r a) :
    ¬ Relation.TransGen r a a := by
  replace h := h.transGen
  induction h with
  | intro x _ ih => exact fun hx => ih x hx hx

theorem Trail.acc (h : Trail o shelf start visits here v)
    (hs : Acc (fun b a => Step o shelf a b) (start, start.root)) :
    Acc (fun b a => Step o shelf a b) (here, v) := by
  induction h with
  | root => exact hs
  | part _ hp ih => exact ih.inv (.part hp)
  | follow _ text target ih => exact ih.inv (.ref text target)

theorem Trail.unfolds (h : Trail o shelf start visits here v)
    (hs : Unfolds o shelf start start.root w) : ∃ w', Unfolds o shelf here v w' := by
  induction h with
  | root => exact ⟨w, hs⟩
  | part _ hp ih =>
    obtain ⟨w', hw⟩ := ih
    exact hw.part hp
  | follow _ text target ih =>
    obtain ⟨w', hw⟩ := ih
    obtain ⟨there, pointer, u, target', hu⟩ := hw.designates text
    obtain ⟨rfl, rfl, rfl⟩ := target.unique target'
    exact ⟨w', hu⟩

/-- Every target that a way has passed is the node it came from. -/
theorem Trail.passed (h : Trail o shelf start visits here v) {a : Visit} (ha : a ∈ visits) :
    ∃ from_ ref u, Designates o shelf from_ ref a.1 a.2 u ∧
      Relation.ReflTransGen (Step o shelf) (a.1, u) (here, v) := by
  induction h with
  | root => cases ha
  | part _ hp ih =>
    obtain ⟨from_, ref, u, hd, hr⟩ := ih ha
    exact ⟨from_, ref, u, hd, hr.tail (.part hp)⟩
  | follow _ text target ih =>
    rcases List.mem_cons.1 ha with rfl | ha
    · exact ⟨_, _, _, target, .refl⟩
    · obtain ⟨from_, ref, u, hd, hr⟩ := ih ha
      exact ⟨from_, ref, u, hd, hr.tail (.ref text target)⟩

/-- A way through a document that unfolds follows no target twice. -/
theorem Trail.nodup (h : Trail o shelf start visits here v)
    (hs : Unfolds o shelf start start.root w) : visits.Nodup := by
  induction h with
  | root => exact List.nodup_nil
  | part _ _ ih => exact ih
  | follow ht text target ih =>
    refine List.nodup_cons.2 ⟨fun ha => ?_, ih⟩
    -- The way from the target back to itself contradicts that all ways from it end.
    obtain ⟨_, _, u, hd, hr⟩ := ht.passed ha
    obtain rfl := hd.target_eq target
    have cycle := Relation.TransGen.tail' hr (Step.ref text target)
    exact not_transGen_self_of_acc ((ht.follow text target).acc hs.acc)
      (Relation.transGen_swap.2 cycle)

end ApiAccord.Reference
