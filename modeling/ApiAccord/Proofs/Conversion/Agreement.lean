import ApiAccord.Proofs.Conversion.Meaning

/-!
# Parts that agree

What is converted before its references are resolved, and what is converted after, is compared part
by part.  Mappings are `Alike` if their members have the same keys, in order, and related values;
`Agrees` relates a part with references to the part that it means.  What the conversion does with
lists of members keeps them alike.
-/

namespace ApiAccord.Swagger

open Reference

/-! ## Related members -/

/-- Members with the same key and related values, of which the first makes no reference. -/
structure MemberRel (R : Scalar → Value → Value → Prop) (m m' : Scalar × Value) : Prop where
  key : m.1 = m'.1
  value : R m.1 m.2 m'.2
  noRef : isRefKey m.1 = true → m.2.str? = none

/-- Mappings with related members. -/
def Alike (R : Scalar → Value → Value → Prop) (ms ms' : Members) : Prop :=
  List.Forall₂ (MemberRel R) ms ms'

/-- Mappings with related members, or equal values of another kind. -/
inductive Each (R : Scalar → Value → Value → Prop) : Value → Value → Prop where
  | map {ms ms' : Members} : Alike R ms ms' → Each R (.map ms) (.map ms')
  | other {v : Value} : v.isMap = false → plain v = true → Each R v v

namespace Alike

variable {R S : Scalar → Value → Value → Prop} {ms ms' ns ns' : Members} {name : String}

theorem mono (h : Alike R ms ms') (hr : ∀ k v w, R k v w → S k v w) : Alike S ms ms' :=
  List.Forall₂.imp (fun _ _ hm => ⟨hm.key, hr _ _ _ hm.value, hm.noRef⟩) h

theorem isReference (h : Alike R ms ms') : isReference ms = false := by
  refine isReference_eq_false_iff.2 fun m hm => ?_
  obtain ⟨m', -, hr⟩ := exists_of_forall₂_of_mem_left h hm
  exact hr.noRef

theorem isEmpty (h : Alike R ms ms') : ms.isEmpty = ms'.isEmpty := by
  cases h <;> rfl

theorem rel (h : Alike R ms ms') : Members.Rel R ms ms' :=
  List.Forall₂.imp (fun _ _ hm => ⟨hm.key, hm.value⟩) h

theorem get? (h : Alike R ms ms') (name : String) :
    Option.Rel (R (.str name)) (ms.get? name) (ms'.get? name) :=
  h.rel.get? name

theorem has (h : Alike R ms ms') (name : String) : ms.has name = ms'.has name :=
  isSome_eq_of_rel (h.get? name)

theorem isNone_lookup (h : Alike R ms ms') (k : Scalar) :
    (ms.lookup k).isNone = (ms'.lookup k).isNone :=
  h.rel.isNone_lookup k

theorem getOrNull (h : Alike R ms ms') (null : R (.str name) .null .null) :
    R (.str name) (getOrNull ms name) (getOrNull ms' name) :=
  getD_rel (h.get? name) null

theorem append (h : Alike R ms ms') (h' : Alike R ns ns') : Alike R (ms ++ ns) (ms' ++ ns') :=
  List.rel_append h h'

theorem cons_named {v w : Value} (hn : name ≠ "$ref") (hr : R (.str name) v w)
    (h : Alike R ms ms') : Alike R (named name v :: ms) (named name w :: ms') :=
  .cons ⟨rfl, hr, fun hk => absurd (Scalar.str.inj (isRefKey_iff.1 hk)) hn⟩ h

/-- The members of mappings that are alike which a test on both sides lets through. -/
theorem filter (h : Alike R ms ms') {p q : Scalar × Value → Bool}
    (hp : ∀ m m', MemberRel R m m' → p m = q m')
    (hs : ∀ m m', MemberRel R m m' → p m = true → S m.1 m.2 m'.2) :
    Alike S (ms.filter p) (ms'.filter q) := by
  induction h with
  | nil => exact .nil
  | @cons m m' rest rest' hm _ ih =>
    rw [List.filter_cons, List.filter_cons, hp m m' hm]
    split
    · next hq => exact .cons ⟨hm.key, hs m m' hm (hp m m' hm ▸ hq), hm.noRef⟩ ih
    · exact ih

/-- A member that is set on both sides. -/
theorem insert {Q : Value → Value → Prop} {k : Scalar} {v w : Value} (hv : v.str? = none)
    (hq : Q v w) (h : Alike (fun _ => Q) ms ms') :
    Alike (fun _ => Q) (Members.insert k v ms) (Members.insert k w ms') := by
  induction h with
  | nil => exact .cons ⟨rfl, hq, fun _ => hv⟩ .nil
  | @cons m m' rest rest' hm ht ih =>
    obtain ⟨k', u⟩ := m
    obtain ⟨k'', u'⟩ := m'
    obtain rfl : k' = k'' := hm.key
    rw [Members.insert, Members.insert]
    split
    · exact .cons ⟨rfl, hq, fun _ => hv⟩ ht
    · exact .cons hm ih

end Alike

/-! ## Agreement -/

/-- A part means another one, and they are null together. -/
structure Agrees (home : String) (conv : Members) (v w : Value) : Prop where
  means : Means home conv v w
  isNull : v.isNull = w.isNull

/-- Mappings with members that agree. -/
abbrev Matching (home : String) (conv : Members) : Members → Members → Prop :=
  Alike fun _ => Agrees home conv

section Agreement

variable {home : String} {conv : Members} {R : Scalar → Value → Value → Prop}
  {ms ms' : Members} {v w : Value} {name : String}

theorem agrees_self (h : plain v = true) : Agrees home conv v v :=
  ⟨means_self_of_plain h, rfl⟩

theorem agrees_scalar (s : Scalar) : Agrees home conv (.scalar s) (.scalar s) := agrees_self rfl

theorem Agrees.list {items items' : List Value}
    (h : List.Forall₂ (Agrees home conv) items items') :
    Agrees home conv (.list items) (.list items') :=
  ⟨unfolds_list_iff.2 ⟨items', rfl, h.imp fun _ _ ha => ha.means⟩, rfl⟩

theorem Alike.agrees (h : Matching home conv ms ms') : Agrees home conv (.map ms) (.map ms') :=
  ⟨(unfolds_map_iff (refText?_eq_none h.isReference)).2
    ⟨ms', rfl, List.Forall₂.imp (fun _ _ hm => ⟨hm.key, hm.value.means⟩) h⟩, rfl⟩

theorem Each.agrees (h : Each R v w) (hr : ∀ k v w, R k v w → Agrees home conv v w) :
    Agrees home conv v w := by
  cases h with
  | map h => exact (h.mono hr).agrees
  | other _ hp => exact agrees_self hp

theorem Each.truthy (h : Each R v w) : v.truthy = w.truthy := by
  cases h with
  | map h => rw [Value.truthy, Value.truthy, h.isEmpty]
  | other => rfl

theorem Each.members (h : Each R v w) : Follows (Alike R) v.members w.members := by
  cases h with
  | map h => exact .pure h
  | other hm => exact fun ms hms => by cases v <;> cases hm <;> cases hms

/-- A value without references is related to itself, if its members are. -/
theorem Each.self (hr : ∀ k v, plain v = true → R k v v) (h : plain v = true) : Each R v v := by
  cases v with
  | map ms =>
    obtain ⟨hn, hm⟩ := plain_map.1 h
    exact .map (List.forall₂_same.2 fun m hmem =>
      ⟨rfl, hr m.1 m.2 (hm m hmem), isReference_eq_false_iff.1 hn m hmem⟩)
  | _ => exact .other rfl h

/-! ## What is done with members -/

theorem Alike.present (h : Matching home conv ms ms') :
    Matching home conv (present ms) (present ms') :=
  h.filter (fun m m' hm => by rw [hm.value.isNull]) fun _ _ hm _ => hm.value

theorem Alike.unlessEmpty (hn : name ≠ "$ref") (h : Matching home conv ms ms') :
    Matching home conv (unlessEmpty name ms) (unlessEmpty name ms') := by
  rw [Swagger.unlessEmpty, Swagger.unlessEmpty, h.isEmpty]
  split
  · exact .nil
  · exact .cons_named hn h.agrees .nil

/-- A member made from a value, if there is one. -/
theorem matching_toList {x y : Option Value} {f : Value → Scalar × Value}
    (h : Option.Rel (Agrees home conv) x y)
    (hf : ∀ v w, Agrees home conv v w → Matching home conv [f v] [f w]) :
    Matching home conv (x.map f).toList (y.map f).toList := by
  cases h with
  | none => exact .nil
  | some h => exact hf _ _ h

theorem follows_collect {α β γ δ ε : Type} {T : α → β → Prop} {S : γ → δ → Prop}
    {f : α → Except ε (Option γ)} {g : β → Except ε (Option δ)} {l : List α} {l' : List β}
    (h : List.Forall₂ T l l') (hf : ∀ a b, T a b → Follows (Option.Rel S) (f a) (g b)) :
    Follows (List.Forall₂ S) (collect f l) (collect g l') := by
  induction h with
  | nil => exact .pure .nil
  | cons hab _ ih =>
    refine .bind (hf _ _ hab) fun c d hcd => .bind ih fun cs ds hcs => .pure ?_
    cases hcd with
    | none => exact hcs
    | some hcd => exact .cons hcd hcs

theorem Alike.extensions (h : Alike R ms ms') (hr : ∀ k v w, R k v w → Agrees home conv v w) :
    Follows (Matching home conv) (extensions ms) (extensions ms') := by
  refine follows_collect (h.mono hr) fun m m' hm => ?_
  rw [hm.key]
  refine .bind (.refl (R := Eq) fun _ _ => rfl) fun b _ hb => .pure ?_
  subst hb
  cases b
  · exact .none
  · exact .some hm

/-- The values of mappings that are alike, converted on both sides. -/
theorem Alike.mapValues {f g : Value → Except Malformed Value} (h : Alike R ms ms')
    (hf : ∀ k v w, R k v w →
      Follows (fun u u' => Agrees home conv u u' ∧ (v.str? = none → u.str? = none)) (f v) (g w)) :
    Follows (Matching home conv) (mapValues f ms) (mapValues g ms') := by
  refine .mapM h fun m m' hm => .bind (hf _ _ _ hm.value) fun u u' hu => .pure ?_
  exact ⟨hm.key, hu.1, fun hk => hu.2 (hm.noRef hk)⟩

end Agreement

end ApiAccord.Swagger
