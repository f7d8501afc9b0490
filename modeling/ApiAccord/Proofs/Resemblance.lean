import ApiAccord.Proofs.Conversion.Operations
import ApiAccord.Proofs.Document.Splitting

/-!
# Documents that differ in parameters and responses

`Resembles P Q` relates documents that are the same, but for entries of lists of parameters, which
`P` relates, and of responses, which `Q` relates.  When these are references in one document and
mappings in the other, the documents resolve to ones that resemble each other, too
(`lift_resembles`), if other references lead to the same in both.
-/

namespace ApiAccord

open Reference Swagger

/-! ## Likeness -/

/-- Equal values, or mappings with related members. -/
inductive Similar (R : Scalar → Value → Value → Prop) : Value → Value → Prop where
  | same (v : Value) : Similar R v v
  | map {ms ms' : Members} : Members.Rel R ms ms' → Similar R (.map ms) (.map ms')

/-- Equal values, or lists with related items. -/
inductive Listed (P : Value → Value → Prop) : Value → Value → Prop where
  | same (v : Value) : Listed P v v
  | list {items items' : List Value} : List.Forall₂ P items items' →
      Listed P (.list items) (.list items')

theorem listed_items {P : Value → Value → Prop} {v w : Value} (hP : ∀ v, P v v)
    (h : Listed P v w) : Together (List.Forall₂ P) v.items w.items := by
  cases h with
  | same => exact .refl (fun _ => List.forall₂_same.2 fun u _ => hP u) _
  | list h => exact .pure h

theorem similar_members {R : Scalar → Value → Value → Prop} {v w : Value} (hR : ∀ k v, R k v v)
    (h : Similar R v w) : Together (Members.Rel R) v.members w.members := by
  cases h with
  | same => exact .refl (Members.Rel.refl hR) _
  | map h => exact .pure h

section Likeness

variable (P Q : Value → Value → Prop)

/-- Members of operations with related entries. -/
def LikeOperation (k : Scalar) (v w : Value) : Prop :=
  if isOneOf ["parameters"] k then Listed P v w
  else if isOneOf ["responses"] k then Similar (fun _ => Q) v w
  else v = w

/-- Members of path items with related entries. -/
def LikeItem (k : Scalar) (v w : Value) : Prop :=
  if isOneOf ["parameters"] k then Listed P v w
  else if isOneOf methods k then Similar (LikeOperation P Q) v w
  else v = w

/-- Members of documents with related entries. -/
def LikeDocument (k : Scalar) (v w : Value) : Prop :=
  if isOneOf ["paths"] k then Similar (fun _ => Similar (LikeItem P Q)) v w else v = w

/-- Documents that differ in related entries of lists of parameters and of responses only. -/
abbrev Resembles : Value → Value → Prop := Similar (LikeDocument P Q)

variable {P Q} {k : Scalar} {v w : Value}

theorem likeOperation_same (k : Scalar) (v : Value) : LikeOperation P Q k v v := by
  unfold LikeOperation
  split
  · exact .same v
  · split
    · exact .same v
    · rfl

theorem likeItem_same (k : Scalar) (v : Value) : LikeItem P Q k v v := by
  unfold LikeItem
  split
  · exact .same v
  · split
    · exact .same v
    · rfl

theorem likeDocument_same (k : Scalar) (v : Value) : LikeDocument P Q k v v := by
  unfold LikeDocument
  split
  · exact .same v
  · rfl

/-- Members under other names are the same. -/
theorem eq_of_likeOperation (h : LikeOperation P Q k v w) (hp : isOneOf ["parameters"] k = false)
    (hr : isOneOf ["responses"] k = false) : v = w := by
  simpa only [LikeOperation, hp, hr, Bool.false_eq_true, if_false] using h

theorem eq_of_likeItem (h : LikeItem P Q k v w) (hp : isOneOf ["parameters"] k = false)
    (hm : isOneOf methods k = false) : v = w := by
  simpa only [LikeItem, hp, hm, Bool.false_eq_true, if_false] using h

theorem eq_of_likeDocument (h : LikeDocument P Q k v w) (hp : isOneOf ["paths"] k = false) :
    v = w := by
  simpa only [LikeDocument, hp, Bool.false_eq_true, if_false] using h

variable {name other : String} {ms ms' : Members}

theorem isOneOf_eq_false_of_ne (h : name ≠ other) : isOneOf [other] (.str name) = false := by
  simpa [isOneOf, Value.isText, Value.str?] using h

theorem get?_eq_of_likeOperation (h : Members.Rel (LikeOperation P Q) ms ms')
    (hp : name ≠ "parameters") (hr : name ≠ "responses") : ms.get? name = ms'.get? name :=
  eq_of_rel (h.get? name) fun _ _ hv =>
    eq_of_likeOperation hv (isOneOf_eq_false_of_ne hp) (isOneOf_eq_false_of_ne hr)

theorem get?_eq_of_likeDocument (h : Members.Rel (LikeDocument P Q) ms ms')
    (hn : name ≠ "paths") : ms.get? name = ms'.get? name :=
  eq_of_rel (h.get? name) fun _ _ hv => eq_of_likeDocument hv (isOneOf_eq_false_of_ne hn)

end Likeness

/-! ## References in place of mappings -/

/-- A reference, and what is put in its place if it leads to a mapping. -/
inductive Swap (leads : String → Members → Prop) (T : Members → Members → Prop) :
    Value → Value → Prop where
  | same (v : Value) : Swap leads T v v
  | put {ref : String} {obj obj' : Members} : leads ref obj → T obj obj' →
      Swap leads T (.map (refMembers ref)) (.map obj')

/-- Equal values, or related mappings. -/
inductive Put (T : Members → Members → Prop) : Value → Value → Prop where
  | same (v : Value) : Put T v v
  | map {obj obj' : Members} : T obj obj' → Put T (.map obj) (.map obj')

/-! ## Resolving in step -/

/-- What two values resolve to is related. -/
def Lift (f g : Members → String → Except Stop Resolved) (S : Value → Value → Prop)
    (v w : Value) : Prop :=
  Together (fun r r' => S r.1 r'.1) (resolveValue f v) (resolveValue g w)

section Lift

variable {f g : Members → String → Except Stop Resolved} {S : Value → Value → Prop}
  {R : Scalar → Value → Value → Prop} {v w : Value} {ms ms' : Members} {items items' : List Value}

theorem lift_list (h : List.Forall₂ (Lift f g S) items items') :
    Lift f g (Listed S) (.list items) (.list items') := by
  have each : Together (fun r r' => List.Forall₂ S r.1 r'.1) (resolveItems f items)
      (resolveItems g items') := by
    induction h with
    | nil => exact .pure .nil
    | cons hv _ ih =>
      rw [resolveItems_cons, resolveItems_cons]
      exact .bind hv fun r r' hr => .bind ih fun s s' hs => .pure (.cons hr hs)
  unfold Lift
  rw [resolveValue_list, resolveValue_list]
  exact each.map fun r r' hr => .list hr

theorem lift_members (h : Members.Rel (fun k => Lift f g (R k)) ms ms') :
    Together (fun r r' => Members.Rel R r.1 r'.1) (resolveMembers f ms)
      (resolveMembers g ms') := by
  induction h with
  | nil => exact .pure .nil
  | cons hm _ ih =>
    rw [resolveMembers_cons, resolveMembers_cons]
    exact .bind hm.2 fun r r' hr => .bind ih fun s s' hs => .pure (.cons ⟨hm.1, hr⟩ hs)

theorem lift_map (plain : refText? ms = none) (plain' : refText? ms' = none)
    (h : Members.Rel (fun k => Lift f g (R k)) ms ms') :
    Lift f g (Similar R) (.map ms) (.map ms') := by
  unfold Lift
  rw [resolveValue_map plain, resolveValue_map plain']
  exact (lift_members h).map fun r r' hr => .map hr

theorem Lift.mono {S' : Value → Value → Prop} (h : Lift f g S v w) (hs : ∀ v w, S v w → S' v w) :
    Lift f g S' v w :=
  Together.mono h fun _ _ => hs _ _

end Lift

section Home

variable {o : ResolveOptions} {leads : Leading} {shelf shelf' : Shelf} {start start' : Place}
  {Corr : Place → Place → Prop} {n : Nat} {v w : Value} {ms ms' : Members}
  {R S : Scalar → Value → Value → Prop} {P P' : Value → Value → Prop}

/-- The values are parts of two documents, reached without following references. -/
def Home (o : ResolveOptions) (shelf shelf' : Shelf) (start start' : Place) (v w : Value) : Prop :=
  Trail o shelf start [] start v ∧ Trail o shelf' start' [] start' w

/-- What is made of the references in two documents, when `n` of them may be followed. -/
abbrev LiftHome (o : ResolveOptions) (shelf shelf' : Shelf) (start start' : Place) (n : Nat) :
    (Value → Value → Prop) → Value → Value → Prop :=
  Lift (enter o shelf n start []) (enter o shelf' n start' [])

variable (strict : o.tolerant = false) (step : InStep o leads shelf shelf' start start' Corr)
  (hc : Corr start start') (hn : bound shelf start.root ≤ n)

include strict step hc hn

theorem lift_of_inlines (h : Home o shelf shelf' start start' v w)
    (hi : Inlines (leads start.base) v w) : LiftHome o shelf shelf' start start' n Eq v w := by
  have iff : ∀ u, resolveValue (enter o shelf n start []) v = .ok (u, []) ↔
      resolveValue (enter o shelf' n start' []) w = .ok (u, []) := fun u =>
    Trail.resolveValue_inStep_iff strict step h.1 h.2 hc hi List.nodup_nil hn
  exact .of_iff (eq_ok_iff_of_strict strict iff) fun _ => rfl

theorem lift_same (h : Home o shelf shelf' start start' v v) (hP : ∀ v, P v v) :
    LiftHome o shelf shelf' start start' n P v v :=
  (lift_of_inlines strict step hc hn h (.refl v)).mono fun u _ hu => hu ▸ hP u

theorem lift_listed (h : Home o shelf shelf' start start' v w)
    (hP : ∀ u u', Home o shelf shelf' start start' u u' → P u u' →
      LiftHome o shelf shelf' start start' n P' u u') (hl : Listed P v w) :
    LiftHome o shelf shelf' start start' n (Listed P') v w := by
  cases hl with
  | same => exact lift_same strict step hc hn h .same
  | list hi =>
    refine lift_list ?_
    have parts := forall₂_and_mem hi
    exact parts.imp fun u u' ⟨hr, hu, hu'⟩ => hP u u' ⟨h.1.part (.item hu), h.2.part (.item hu')⟩ hr

theorem lift_similar (h : Home o shelf shelf' start start' v w)
    (hR : ∀ k u u', Home o shelf shelf' start start' u u' → R k u u' →
      LiftHome o shelf shelf' start start' n (S k) u u')
    (text : ∀ u u', R (.str "$ref") u u' → u.str? = u'.str?) (hs : Similar R v w) :
    LiftHome o shelf shelf' start start' n (Similar S) v w := by
  cases hs with
  | same => exact lift_same strict step hc hn h .same
  | @map ms ms' hm =>
    have texts : refText? ms = refText? ms' := by
      have member := hm.get? "$ref"
      unfold refText?
      generalize ms.get? "$ref" = x, ms'.get? "$ref" = y at member ⊢
      cases member with
      | none => rfl
      | some hr => exact text _ _ hr
    cases plain : refText? ms with
    | some ref =>
      exact (lift_of_inlines strict step hc hn h (.sameText plain (texts ▸ plain))).mono
        fun u _ hu => hu ▸ .same u
    | none =>
      have plain' := texts.symm.trans plain
      refine lift_map plain plain' ?_
      have parts := forall₂_and_mem hm
      exact parts.imp fun m m' ⟨hr, hm, hm'⟩ => ⟨hr.1, hR m.1 m.2 m'.2
        ⟨h.1.part (.member plain hm), h.2.part (.member plain' hm')⟩ hr.2⟩

variable {leads' : Leading} {T T' U U' : Members → Members → Prop}

/-- The mappings have no references, and are related. -/
def PlainBoth (T T' : Members → Members → Prop) : Prop :=
  ∀ obj obj', T obj obj' →
    refTexts (.map obj) = [] ∧ refTexts (.map obj') = [] ∧ T' obj obj'

variable (sound : Sound o leads' shelf start)

include sound

/-- A reference resolves to the mapping that it leads to, and what is put in its place stays. -/
theorem lift_swap (plain : PlainBoth T T') (h : Home o shelf shelf' start start' v w)
    (hs : Swap (leads' start.base) T v w) :
    LiftHome o shelf shelf' start start' n (Put T') v w := by
  cases hs with
  | same => exact lift_same strict step hc hn h .same
  | @put ref obj obj' leads hT =>
    have text : refText? (refMembers ref) = some ref := rfl
    obtain ⟨there, pointer, target⟩ := sound start ref obj ⟨[], _, h.1, text⟩ leads
    obtain ⟨plain, plain', hT⟩ := plain obj obj' hT
    have room := h.1.follow_lt_bound text target List.nodup_nil List.not_mem_nil
    have ok : resolveValue (enter o shelf n start []) (.map (refMembers ref)) =
        .ok (.map obj, []) := by
      rw [resolveValue_ref text]
      have : n = (n - 1) + 1 := by simp only [List.length_nil] at room; omega
      exact (enter_eq_ok_iff strict).2 ⟨n - 1, there, pointer, _, this, target, List.not_mem_nil,
        resolveValue_of_refTexts_eq_nil plain⟩
    unfold LiftHome Lift
    rw [ok, resolveValue_of_refTexts_eq_nil plain']
    exact .pure (.map hT)

variable (plainT : PlainBoth T T') (plainU : PlainBoth U U')

include plainT

theorem lift_entries (h : Home o shelf shelf' start start' v w)
    (hl : Listed (Swap (leads' start.base) T) v w) :
    LiftHome o shelf shelf' start start' n (Listed (Put T')) v w :=
  lift_listed strict step hc hn h
    (fun _ _ home hs => lift_swap strict step hc hn sound plainT home hs) hl

include plainU

theorem lift_operation (h : Home o shelf shelf' start start' v w)
    (hs : Similar (LikeOperation (Swap (leads' start.base) T) (Swap (leads' start.base) U)) v w) :
    LiftHome o shelf shelf' start start' n (Similar (LikeOperation (Put T') (Put U'))) v w := by
  refine lift_similar strict step hc hn h (fun k u u' home hk => ?_)
    (fun u u' hk => congrArg Value.str? (eq_of_likeOperation hk rfl rfl)) hs
  unfold LikeOperation at hk ⊢
  split
  · next hp =>
    rw [if_pos hp] at hk
    exact lift_entries strict step hc hn sound plainT home hk
  · next hp =>
    rw [if_neg hp] at hk
    split
    · next hr =>
      rw [if_pos hr] at hk
      refine lift_similar strict step hc hn home
        (fun _ _ _ home hs => lift_swap strict step hc hn sound plainU home hs) ?_ hk
      rintro u u' (_ | _) <;> rfl
    · next hr =>
      rw [if_neg hr] at hk
      exact hk ▸ lift_same strict step hc hn (hk ▸ home) fun _ => rfl

theorem lift_item (h : Home o shelf shelf' start start' v w)
    (hs : Similar (LikeItem (Swap (leads' start.base) T) (Swap (leads' start.base) U)) v w) :
    LiftHome o shelf shelf' start start' n (Similar (LikeItem (Put T') (Put U'))) v w := by
  refine lift_similar strict step hc hn h (fun k u u' home hk => ?_)
    (fun u u' hk => congrArg Value.str? (eq_of_likeItem hk rfl rfl)) hs
  unfold LikeItem at hk ⊢
  split
  · next hp =>
    rw [if_pos hp] at hk
    exact lift_entries strict step hc hn sound plainT home hk
  · next hp =>
    rw [if_neg hp] at hk
    split
    · next hm =>
      rw [if_pos hm] at hk
      exact lift_operation strict step hc hn sound plainT plainU home hk
    · next hm =>
      rw [if_neg hm] at hk
      exact hk ▸ lift_same strict step hc hn (hk ▸ home) fun _ => rfl

/-- Documents that resemble each other, with references on one side and what is put in their place
on the other, resolve to documents that do. -/
theorem lift_resembles (h : Home o shelf shelf' start start' v w)
    (hr : Resembles (Swap (leads' start.base) T) (Swap (leads' start.base) U) v w) :
    LiftHome o shelf shelf' start start' n (Resembles (Put T') (Put U')) v w := by
  refine lift_similar strict step hc hn h (fun k u u' home hk => ?_)
    (fun u u' hk => congrArg Value.str? (eq_of_likeDocument hk rfl)) hr
  unfold LikeDocument at hk ⊢
  split
  · next hp =>
    rw [if_pos hp] at hk
    -- The texts of path items that are references are the same, like all of their other members.
    refine lift_similar strict step hc hn home
      (fun _ _ _ home hs => lift_item strict step hc hn sound plainT plainU home hs) ?_ hk
    rintro u u' (_ | _) <;> rfl
  · next hp =>
    rw [if_neg hp] at hk
    exact hk ▸ lift_same strict step hc hn (hk ▸ home) fun _ => rfl

end Home

end ApiAccord
