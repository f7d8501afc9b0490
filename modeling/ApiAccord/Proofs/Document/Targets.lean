import ApiAccord.Proofs.Correspondence
import ApiAccord.Proofs.Document.Unfolding
import ApiAccord.Proofs.Text
import ApiAccord.Proofs.Value
import Mathlib.Data.List.Basic
import Mathlib.Data.List.Perm.Subperm

/-!
# How many targets there are

A way through documents meets only documents of the shelf and the one it starts from, and follows
only references that are written in one of these.  So there are finitely many keys that its targets
can have, `targetKeys`, and fewer of them than `bound` says.  Two targets can have the same key only
if the location of a document has a `#` in it (`keysApart_of_plainLocations`).
-/

namespace ApiAccord

theorem Shelf.mem_documents_of_load_eq_ok {shelf : Shelf} {location : String} {v : Value}
    (h : shelf.load location = .ok v) : (location, .ok v) ∈ shelf.documents := by
  unfold Shelf.load at h
  split at h
  · next result hl =>
    obtain ⟨before, after, hd, -⟩ := List.lookup_eq_some_iff.1 hl
    rw [hd, h]
    exact List.mem_append_right before List.mem_cons_self
  · cases h

namespace Reference

variable {o : ResolveOptions} {shelf : Shelf} {start here there : Place} {u v w : Value}
  {ms : Members} {ref r pointer segment : String} {visits : List Visit} {t : Target}

/-! ## The references in a node -/

theorem refTexts_of_mem_items {items : List Value} (hv : v ∈ items) (hr : r ∈ refTexts v) :
    r ∈ refTexts (.list items) := by
  rw [refTexts]
  induction items with
  | nil => cases hv
  | cons w rest ih =>
    rw [refTextsOfItems]
    rcases List.mem_cons.1 hv with rfl | hv
    · exact List.mem_append_left _ hr
    · exact List.mem_append_right _ (ih hv)

theorem refTexts_of_mem_members {m : Scalar × Value} (hm : m ∈ ms) (hr : r ∈ refTexts m.2) :
    r ∈ refTexts (.map ms) := by
  rw [refTexts]
  refine List.mem_append_right _ ?_
  induction ms with
  | nil => cases hm
  | cons n rest ih =>
    rw [refTextsOfMembers]
    rcases List.mem_cons.1 hm with rfl | hm
    · exact List.mem_append_left _ hr
    · exact List.mem_append_right _ (ih hm)

theorem mem_refTexts_of_refText? (text : refText? ms = some ref) : ref ∈ refTexts (.map ms) := by
  rw [refTexts, text]
  exact List.mem_append_left _ List.mem_cons_self

theorem Part.refTexts (hp : Part u v) (hr : r ∈ refTexts v) : r ∈ Reference.refTexts u := by
  cases hp with
  | item hv => exact refTexts_of_mem_items hv hr
  | member _ hm => exact refTexts_of_mem_members hm hr

theorem refTexts_of_down (hd : Pointer.Down segment u v) (hr : r ∈ refTexts v) :
    r ∈ refTexts u := by
  cases hd with
  | member h => exact refTexts_of_mem_members (Members.mem_of_get? h) hr
  | item h =>
    obtain ⟨i, -, hi⟩ := Option.bind_eq_some_iff.1 h
    exact refTexts_of_mem_items (Pointer.mem_of_itemAt? hi) hr

theorem refTexts_of_walk {segments : List String} (h : Pointer.walk ref segments u = .ok v)
    (hr : r ∈ refTexts v) : r ∈ refTexts u := by
  induction segments generalizing u with
  | nil => exact Except.ok.inj h ▸ hr
  | cons segment rest ih =>
    obtain ⟨u', hd, h⟩ := Pointer.walk_cons_eq_ok_iff.1 h
    exact refTexts_of_down hd (ih h)

/-- The node that a pointer leads to has no references beside those of the document. -/
theorem refTexts_of_resolve (h : Pointer.resolve ref pointer u = .ok v) (hr : r ∈ refTexts v) :
    r ∈ refTexts u := by
  obtain ⟨segments, -, h⟩ := Pointer.resolve_eq_ok_iff.1 h
  exact refTexts_of_walk h hr

/-! ## The keys that targets can have -/

/-- The pointer of a reference. -/
def pointerOf (ref : String) : String :=
  match Text.stripHead? "#" ref with
  | some pointer => pointer
  | none => String.ofList ((Text.Chars.splitAt? '#' ref.toList).2.getD [])

theorem pointer_eq_of_split (h : split o here.base ref = .ok t) : t.pointer = pointerOf ref := by
  cases hs : Text.stripHead? "#" ref with
  | some pointer =>
    simp only [split, hs] at h
    simp only [pointerOf, hs, ← Except.ok.inj h]
  | none =>
    simp only [split, hs] at h
    split at h
    · obtain ⟨location, -, h⟩ := bind_eq_ok_iff.1 h
      simp only [pointerOf, hs, ← Except.ok.inj h]
    · cases h

/-- The documents that can be met, and their locations. -/
def roots (shelf : Shelf) (start : Place) : List Value := start.root :: available shelf

def locations (shelf : Shelf) (start : Place) : List String :=
  start.base.getD "" :: shelf.documents.map (·.1)

/-- The keys that the targets of references can have. -/
def targetKeys (shelf : Shelf) (start : Place) : List String :=
  (locations shelf start).flatMap fun location =>
    ((roots shelf start).flatMap refTexts).map fun ref => location ++ "#" ++ pointerOf ref

theorem length_targetKeys_lt_bound : (targetKeys shelf start).length < bound shelf start.root := by
  have length : (targetKeys shelf start).length =
      (shelf.documents.length + 1) * ((roots shelf start).flatMap refTexts).length := by
    rw [targetKeys, List.length_flatMap]
    simp only [List.length_map, List.map_const', List.sum_replicate_nat, locations,
      List.length_cons]
  rw [length, bound, roots, Nat.lt_succ_iff]
  exact Nat.mul_le_mul_right _ (Nat.le_succ _)

/-- The place is at a document that can be met. -/
structure Met (shelf : Shelf) (start here : Place) : Prop where
  root : here.root ∈ roots shelf start
  base : here.base.getD "" ∈ locations shelf start

theorem Met.placeOf (hm : Met shelf start here)
    (h : Reference.placeOf shelf here ref t = .ok there) : Met shelf start there := by
  unfold Reference.placeOf at h
  split at h
  · exact Except.ok.inj h ▸ hm
  · split at h
    · next root hl =>
      obtain rfl := Except.ok.inj h
      have hd := Shelf.mem_documents_of_load_eq_ok hl
      exact ⟨List.mem_cons_of_mem _ (List.mem_filterMap.2 ⟨_, hd, rfl⟩),
        List.mem_cons_of_mem _ (List.mem_map.2 ⟨_, hd, rfl⟩)⟩
    · cases h
    · cases h

theorem Trail.met (h : Trail o shelf start visits here v) :
    Met shelf start here ∧ ∀ r ∈ refTexts v, r ∈ refTexts here.root := by
  induction h with
  | root => exact ⟨⟨List.mem_cons_self, List.mem_cons_self⟩, fun r hr => hr⟩
  | part _ hp ih => exact ⟨ih.1, fun r hr => ih.2 r (hp.refTexts hr)⟩
  | follow _ _ target ih =>
    obtain ⟨t, -, -, hp, hv⟩ := target
    exact ⟨ih.1.placeOf hp, fun r => refTexts_of_resolve hv⟩

theorem Trail.key_mem_targetKeys (h : Trail o shelf start visits here v) {a : Visit}
    (ha : a ∈ visits) : a.key ∈ targetKeys shelf start := by
  induction h with
  | root => cases ha
  | part _ _ ih => exact ih ha
  | follow ht text target ih =>
    rcases List.mem_cons.1 ha with rfl | ha
    · obtain ⟨hm, hr⟩ := ht.met
      obtain ⟨t, hs, rfl, hp, -⟩ := target
      rw [Visit.key, pointer_eq_of_split hs]
      refine List.mem_flatMap.2 ⟨_, (hm.placeOf hp).base, List.mem_map.2 ⟨_, ?_, rfl⟩⟩
      exact List.mem_flatMap.2 ⟨_, hm.root, hr _ (mem_refTexts_of_refText? text)⟩
    · exact ih ha

/-- A way that remembers no key twice follows fewer references than `bound`. -/
theorem Trail.length_lt_bound (h : Trail o shelf start visits here v)
    (hd : (visits.map Visit.key).Nodup) : visits.length < bound shelf start.root := by
  have sub : visits.map Visit.key ⊆ targetKeys shelf start := by
    intro k hk
    obtain ⟨a, ha, rfl⟩ := List.mem_map.1 hk
    exact h.key_mem_targetKeys ha
  calc visits.length = (visits.map Visit.key).length := (List.length_map _).symm
    _ ≤ (targetKeys shelf start).length := (List.subperm_of_subset hd sub).length_le
    _ < bound shelf start.root := length_targetKeys_lt_bound

/-! ## When different targets have different keys -/

/-- No location is empty or has the sign that ends it in a key. -/
def PlainLocations (shelf : Shelf) : Prop :=
  ∀ d ∈ shelf.documents, d.1 ≠ "" ∧ '#' ∉ d.1.toList

/-- The place is the start, or that of a document on the shelf. -/
def Loaded (shelf : Shelf) (start here : Place) : Prop :=
  here = start ∨ ∃ l, here.base = some l ∧ shelf.load l = .ok here.root

theorem Loaded.placeOf (hl : Loaded shelf start here)
    (h : Reference.placeOf shelf here ref t = .ok there) : Loaded shelf start there := by
  unfold Reference.placeOf at h
  split at h
  · exact Except.ok.inj h ▸ hl
  · split at h
    · next root hr =>
      obtain rfl := Except.ok.inj h
      exact .inr ⟨_, rfl, hr⟩
    · cases h
    · cases h

theorem Trail.loaded (h : Trail o shelf start visits here v) :
    Loaded shelf start here ∧ ∀ a ∈ visits, Loaded shelf start a.1 := by
  induction h with
  | root => exact ⟨.inl rfl, fun a ha => absurd ha List.not_mem_nil⟩
  | part _ _ ih => exact ih
  | follow _ _ target ih =>
    obtain ⟨t, -, -, hp, -⟩ := target
    have loaded := ih.1.placeOf hp
    exact ⟨loaded, List.forall_mem_cons.2 ⟨loaded, ih.2⟩⟩

/-- The place is that of a document as it is on the shelf, or has no location and is the start. -/
def Placed (shelf : Shelf) (start here : Place) : Prop :=
  (here.base = none ∧ here = start) ∨ ∃ l, here.base = some l ∧ shelf.load l = .ok here.root

theorem Loaded.placed (h : Loaded shelf start here) (hs : Placed shelf start start) :
    Placed shelf start here := by
  rcases h with rfl | h
  · exact hs
  · exact .inr h

theorem Placed.eq_of_location_eq (hs : PlainLocations shelf) (h : Placed shelf start here)
    (h' : Placed shelf start there) (hb : here.base.getD "" = there.base.getD "") :
    here = there := by
  obtain ⟨root, base⟩ := here
  obtain ⟨root', base'⟩ := there
  rcases h with ⟨rfl, h⟩ | ⟨l, rfl, h⟩ <;> rcases h' with ⟨rfl, h'⟩ | ⟨l', rfl, h'⟩
  · exact h.trans h'.symm
  · exact absurd hb.symm (hs _ (Shelf.mem_documents_of_load_eq_ok h')).1
  · exact absurd hb (hs _ (Shelf.mem_documents_of_load_eq_ok h)).1
  · obtain rfl : l = l' := hb
    obtain rfl := Except.ok.inj (h.symm.trans h')
    rfl

theorem Placed.sharp_notMem (hs : PlainLocations shelf) (h : Placed shelf start here) :
    '#' ∉ (here.base.getD "").toList := by
  rcases h with ⟨h, -⟩ | ⟨l, h, hl⟩
  · rw [h]
    exact List.not_mem_nil
  · rw [h]
    exact (hs _ (Shelf.mem_documents_of_load_eq_ok hl)).2

/-- Where no location has the sign `#`, a document without a location, or one that is found at its
own location, keeps its targets apart. -/
theorem keysApart_of_plainLocations (hs : PlainLocations shelf) (hp : Placed shelf start start) :
    KeysApart o shelf start := by
  intro visits here v h a ha b hb hk
  have pa := (h.loaded.2 a ha).placed hp
  have pb := (h.loaded.2 b hb).placed hp
  obtain ⟨hl, hq⟩ := Text.append_sharp_inj (pa.sharp_notMem hs) (pb.sharp_notMem hs) hk
  exact Prod.ext (pa.eq_of_location_eq hs pb hl) hq

end Reference

end ApiAccord
