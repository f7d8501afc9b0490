import ApiAccord.Proofs.Document.Inlining
import ApiAccord.Proofs.Document.Targets
import ApiAccord.Proofs.Document.Tolerance

/-!
# References that remain

`remaining` lists the references in a value, none of them inside of another.  A resolution leaves
references in place that it met; but it looks at a mapping before it resolves the members, so that
a mapping can become a reference (`BecomesReference`), and it does not go through pairs.  Where
neither happens (`AllMet`), the references that remain are those that were left
(`unresolved_eq_remaining`), and a strict answer has none and is resolved to itself
(`strictly_complete_iff`).
-/

namespace ApiAccord.Reference

/-! ## The references in a value -/

/-- `v` is in `w`, at any depth. -/
inductive Within (v : Value) : (w : Value) → Prop where
  | self : Within v v
  | item {u : Value} {items : List Value} : u ∈ items → Within v u → Within v (.list items)
  | first {a b : Value} : Within v a → Within v (.pair a b)
  | second {a b : Value} : Within v b → Within v (.pair a b)
  | member {m : Scalar × Value} {ms : Members} : m ∈ ms → Within v m.2 → Within v (.map ms)

mutual

/-- The references in a value that are in no other reference, in order. -/
def remaining : Value → List Members
  | .map ms => if (refText? ms).isSome then [ms] else remainingOfMembers ms
  | .list items => remainingOfItems items
  | .pair a b => remaining a ++ remaining b
  | .scalar _ | .set _ => []

def remainingOfItems : List Value → List Members
  | [] => []
  | v :: rest => remaining v ++ remainingOfItems rest

def remainingOfMembers : List (Scalar × Value) → List Members
  | [] => []
  | (_, v) :: rest => remaining v ++ remainingOfMembers rest

end

section Remaining

variable {u v w : Value} {ms : Members} {items : List Value} {ref : String}

theorem Within.trans (hu : Within u v) (hv : Within v w) : Within u w := by
  induction hv with
  | self => exact hu
  | item hm _ ih => exact .item hm ih
  | first _ ih => exact .first ih
  | second _ ih => exact .second ih
  | member hm _ ih => exact .member hm ih

theorem within_scalar_iff {s : Scalar} : Within v (.scalar s) ↔ v = .scalar s :=
  ⟨fun h => by cases h; rfl, fun h => h ▸ .self⟩

theorem within_map_iff : Within v (.map ms) ↔ v = .map ms ∨ ∃ m ∈ ms, Within v m.2 :=
  ⟨fun h => by cases h with | self => exact .inl rfl | member hm h => exact .inr ⟨_, hm, h⟩,
    fun h => h.elim (fun h => h ▸ .self) fun ⟨_, hm, h⟩ => .member hm h⟩

theorem remaining_ref (text : refText? ms = some ref) : remaining (.map ms) = [ms] := by
  rw [remaining, text]
  rfl

theorem remaining_map (plain : refText? ms = none) :
    remaining (.map ms) = remainingOfMembers ms := by
  rw [remaining, plain]
  rfl

theorem remainingOfItems_eq_flatMap (items : List Value) :
    remainingOfItems items = items.flatMap remaining := by
  induction items with
  | nil => rfl
  | cons v rest ih => rw [remainingOfItems, ih, List.flatMap_cons]

theorem remainingOfMembers_eq_flatMap (ms : Members) :
    remainingOfMembers ms = ms.flatMap fun m => remaining m.2 := by
  induction ms with
  | nil => rfl
  | cons m rest ih => rw [remainingOfMembers, ih, List.flatMap_cons]

theorem refText?_isSome_of_mem_remaining (h : ms ∈ remaining v) : (refText? ms).isSome := by
  induction v using Value.inductionOn with
  | scalar | set => cases h
  | list items ih =>
    rw [remaining, remainingOfItems_eq_flatMap] at h
    obtain ⟨v, hv, h⟩ := List.mem_flatMap.1 h
    exact ih v hv h
  | pair a b iha ihb => exact (List.mem_append.1 h).elim iha ihb
  | map ns ih =>
    cases text : refText? ns with
    | some ref =>
      rw [remaining_ref text] at h
      rw [List.mem_singleton.1 h, text]
      rfl
    | none =>
      rw [remaining_map text, remainingOfMembers_eq_flatMap] at h
      obtain ⟨m, hm, h⟩ := List.mem_flatMap.1 h
      exact ih m hm h

/-- No reference remains if there is none at any depth. -/
theorem remaining_eq_nil_iff :
    remaining w = [] ↔ ∀ ms, Within (.map ms) w → refText? ms = none := by
  constructor
  · intro h ms hw
    generalize hv : Value.map ms = v at hw
    induction hw with
    | self =>
      cases hv
      cases text : refText? ms with
      | none => rfl
      | some ref => rw [remaining_ref text] at h; cases h
    | item hm _ ih =>
      rw [remaining, remainingOfItems_eq_flatMap, List.flatMap_eq_nil_iff] at h
      exact ih (h _ hm)
    | first _ ih => exact ih (List.append_eq_nil_iff.1 h).1
    | second _ ih => exact ih (List.append_eq_nil_iff.1 h).2
    | @member m ns hm _ ih =>
      cases text : refText? ns with
      | some ref => rw [remaining_ref text] at h; cases h
      | none =>
        rw [remaining_map text, remainingOfMembers_eq_flatMap, List.flatMap_eq_nil_iff] at h
        exact ih (h _ hm)
  · intro h
    induction w using Value.inductionOn with
    | scalar | set => rfl
    | list items ih =>
      rw [remaining, remainingOfItems_eq_flatMap, List.flatMap_eq_nil_iff]
      exact fun v hv => ih v hv fun ms hw => h ms (.item hv hw)
    | pair a b iha ihb =>
      rw [remaining, iha fun ms hw => h ms (.first hw), ihb fun ms hw => h ms (.second hw)]
      rfl
    | map ns ih =>
      rw [remaining_map (h ns .self), remainingOfMembers_eq_flatMap, List.flatMap_eq_nil_iff]
      exact fun m hm => ih m hm fun ms hw => h ms (.member hm hw)

/-- A value in which no reference remains has none for a resolution to follow. -/
theorem refTexts_eq_nil_of_remaining (h : remaining w = []) : refTexts w = [] := by
  induction w using Value.inductionOn with
  | scalar | set | pair => rfl
  | list items ih =>
    rw [remaining, remainingOfItems_eq_flatMap, List.flatMap_eq_nil_iff] at h
    exact refTexts_list_eq_nil fun v hv => ih v hv (h v hv)
  | map ms ih =>
    have plain := remaining_eq_nil_iff.1 h ms .self
    rw [remaining_map plain, remainingOfMembers_eq_flatMap, List.flatMap_eq_nil_iff] at h
    exact refTexts_map_eq_nil plain fun m hm => ih m hm (h m hm)

end Remaining

/-! ## Mappings that become references -/

section Conditions

variable (o : ResolveOptions) (shelf : Shelf)

/-- The mapping is no reference, but the member that would make it one unfolds to a text. -/
def BecomesReference (here : Place) (ms : Members) : Prop :=
  refText? ms = none ∧ ∃ v s, ms.get? "$ref" = some v ∧ Unfolds o shelf here v (.str s)

/-- On the ways from the root no mapping becomes a reference, and no pair has one in it. -/
structure AllMet (start : Place) : Prop where
  maps : ∀ visits here ms, Trail o shelf start visits here (.map ms) →
    ¬ BecomesReference o shelf here ms
  pairs : ∀ visits here a b, Trail o shelf start visits here (.pair a b) →
    remaining (.pair a b) = []

/-- The reference is one that a way from the root leads to, in the document that it belongs to. -/
def MetIn (start here : Place) (ms : Members) : Prop :=
  ∃ visits, Trail o shelf start visits here (.map ms) ∧ Within (.map ms) here.root

end Conditions

variable {o : ResolveOptions} {shelf : Shelf} {start here there : Place} {u v w w' : Value}
  {ms ms' : Members} {ref pointer segment : String} {visits : List Visit} {seen : List String}
  {left : List RefError} {f : Members → String → Except Stop Resolved}

/-- Wherever a mapping in the value has a member `$ref`, this is a text; and there are no pairs. -/
structure RefsAreTexts (v : Value) : Prop where
  texts : ∀ ms, Within (.map ms) v → (Members.get? "$ref" ms).isSome → (refText? ms).isSome
  noPairs : ∀ a b, ¬ Within (.pair a b) v

/-! ## Nodes are in their documents -/

theorem Part.within (hp : Part u v) : Within v u := by
  cases hp with
  | item hv => exact .item hv .self
  | member _ hm => exact .member hm .self

theorem within_of_down (hd : Pointer.Down segment u v) : Within v u := by
  cases hd with
  | member h => exact .member (Members.mem_of_get? h) .self
  | item h =>
    obtain ⟨i, -, hi⟩ := Option.bind_eq_some_iff.1 h
    exact .item (Pointer.mem_of_itemAt? hi) .self

theorem within_of_walk {segments : List String} (h : Pointer.walk ref segments u = .ok v) :
    Within v u := by
  induction segments generalizing u with
  | nil => exact Except.ok.inj h ▸ .self
  | cons segment rest ih =>
    obtain ⟨u', hd, h⟩ := Pointer.walk_cons_eq_ok_iff.1 h
    exact (ih h).trans (within_of_down hd)

theorem Trail.within (h : Trail o shelf start visits here v) : Within v here.root := by
  induction h with
  | root => exact .self
  | part _ hp ih => exact hp.within.trans ih
  | follow _ _ target _ =>
    obtain ⟨-, -, -, -, h⟩ := target
    obtain ⟨segments, -, h⟩ := Pointer.resolve_eq_ok_iff.1 h
    exact within_of_walk h

/-- Documents in which every `$ref` is a text have all their references met. -/
theorem AllMet.of_texts (root : RefsAreTexts start.root)
    (others : ∀ location v, shelf.load location = .ok v → RefsAreTexts v) :
    AllMet o shelf start := by
  have each : ∀ visits here v, Trail o shelf start visits here v → RefsAreTexts here.root := by
    intro visits here v way
    obtain rfl | ⟨location, -, loaded⟩ := way.loaded.1
    · exact root
    · exact others location here.root loaded
  refine ⟨fun visits here ms way => ?_, fun visits here a b way => ?_⟩
  · rintro ⟨plain, v, s, hv, -⟩
    have ref := (each visits here _ way).texts ms way.within (hv ▸ rfl)
    rw [plain] at ref
    cases ref
  · exact absurd way.within ((each visits here _ way).noPairs a b)

/-! ## References that were left -/

/-- The references are those that were left, in order, and each is as a document has it. -/
def Accounted (o : ResolveOptions) (shelf : Shelf) (start : Place) (refs : List Members)
    (left : List RefError) : Prop :=
  refs.filterMap refText? = left.map RefError.ref ∧
    ∀ ms ∈ refs, ∃ here, MetIn o shelf start here ms

theorem Accounted.nil : Accounted o shelf start [] [] := ⟨rfl, fun _ h => (by cases h)⟩

theorem Accounted.append {refs refs' : List Members} {left' : List RefError}
    (h : Accounted o shelf start refs left) (h' : Accounted o shelf start refs' left') :
    Accounted o shelf start (refs ++ refs') (left ++ left') := by
  refine ⟨by rw [List.filterMap_append, List.map_append, h.1, h'.1], fun ms hm => ?_⟩
  exact (List.mem_append.1 hm).elim (h.2 ms) (h'.2 ms)

/-- A reference that a way leads to is left as it is. -/
theorem Trail.accounted (h : Trail o shelf start visits here (.map ms))
    (text : refText? ms = some ref) {e : RefError} (he : e.ref = ref) :
    Accounted o shelf start (remaining (.map ms)) [e] := by
  rw [remaining_ref text]
  refine ⟨by rw [List.filterMap_cons, text, List.map_cons, he]; rfl, fun ns hn => ?_⟩
  exact List.mem_singleton.1 hn ▸ ⟨here, visits, h, h.within⟩

theorem accounted_of_resolveItems {items items' : List Value}
    (each : ∀ v ∈ items, ∀ w left, resolveValue f v = .ok (w, left) →
      Accounted o shelf start (remaining w) left)
    (h : resolveItems f items = .ok (items', left)) :
    Accounted o shelf start (remainingOfItems items') left := by
  induction items generalizing items' left with
  | nil => cases h; exact .nil
  | cons v rest ih =>
    rw [resolveItems_cons] at h
    obtain ⟨⟨w, left₁⟩, hv, h⟩ := bind_eq_ok_iff.1 h
    obtain ⟨⟨ws, left₂⟩, hr, h⟩ := bind_eq_ok_iff.1 h
    cases h
    exact (each v List.mem_cons_self w left₁ hv).append
      (ih (fun u hu => each u (List.mem_cons_of_mem v hu)) hr)

theorem accounted_of_resolveMembers
    (each : ∀ m ∈ ms, ∀ w left, resolveValue f m.2 = .ok (w, left) →
      Accounted o shelf start (remaining w) left)
    (h : resolveMembers f ms = .ok (ms', left)) :
    Accounted o shelf start (remainingOfMembers ms') left := by
  induction ms generalizing ms' left with
  | nil => cases h; exact .nil
  | cons m rest ih =>
    rw [resolveMembers_cons] at h
    obtain ⟨⟨w, left₁⟩, hv, h⟩ := bind_eq_ok_iff.1 h
    obtain ⟨⟨ws, left₂⟩, hr, h⟩ := bind_eq_ok_iff.1 h
    cases h
    exact (each m List.mem_cons_self w left₁ hv).append
      (ih (fun n hn => each n (List.mem_cons_of_mem m hn)) hr)

/-- Members keep their keys and order. -/
theorem rel_of_resolveMembers (h : resolveMembers f ms = .ok (ms', left)) :
    Members.Rel (fun _ v w => ∃ left, resolveValue f v = .ok (w, left)) ms ms' := by
  induction ms generalizing ms' left with
  | nil => cases h; exact .nil
  | cons m rest ih =>
    rw [resolveMembers_cons] at h
    obtain ⟨⟨w, left₁⟩, hv, h⟩ := bind_eq_ok_iff.1 h
    obtain ⟨⟨ws, left₂⟩, hr, h⟩ := bind_eq_ok_iff.1 h
    cases h
    exact .cons ⟨rfl, left₁, hv⟩ (ih hr)

/-- What becomes a text is a text, or a reference to one. -/
theorem unfolds_of_resolveValue_text {s : String}
    (refs : ∀ ms ref left, refText? ms = some ref → f ms ref = .ok (.str s, left) →
      Unfolds o shelf here (.map ms) (.str s))
    (h : resolveValue f v = .ok (.str s, left)) : Unfolds o shelf here v (.str s) := by
  cases v with
  | scalar => cases h; exact .scalar _
  | pair | set => cases h
  | list items =>
    obtain ⟨_, -, h⟩ := map_eq_ok_iff.1 h
    cases h
  | map ms =>
    cases text : refText? ms with
    | some ref => exact refs ms ref left text (by rwa [resolveValue_ref text] at h)
    | none =>
      rw [resolveValue_map text] at h
      obtain ⟨_, -, h⟩ := map_eq_ok_iff.1 h
      cases h

theorem eq_str_of_str? {s : String} (h : v.str? = some s) : v = .str s := by
  unfold Value.str? at h
  split at h
  · exact congrArg Value.str (Option.some.inj h)
  · cases h

/-- A mapping that does not become a reference is none when its members are resolved. -/
theorem refText?_eq_none_of_rel {P : Value → Value → Prop} (plain : refText? ms = none)
    (stays : ¬ BecomesReference o shelf here ms)
    (texts : ∀ v s, P v (.str s) → Unfolds o shelf here v (.str s))
    (h : Members.Rel (fun _ => P) ms ms') : refText? ms' = none := by
  cases text : refText? ms' with
  | none => rfl
  | some s =>
    obtain ⟨w, hw, hs⟩ := Option.bind_eq_some_iff.1 text
    have member := h.get? "$ref"
    rw [hw, eq_str_of_str? hs] at member
    cases hv : ms.get? "$ref" with
    | none => rw [hv] at member; cases member
    | some v =>
      rw [hv] at member
      cases member with
      | some hp => exact absurd ⟨plain, v, s, hv, texts v s hp⟩ stays

/-- Nothing remains of a value but what was left of its references. -/
theorem Trail.accounted_of_resolveValue (met : AllMet o shelf start)
    (refs : ∀ ms ref w left, Trail o shelf start visits here (.map ms) → refText? ms = some ref →
      f ms ref = .ok (w, left) → Accounted o shelf start (remaining w) left)
    (texts : ∀ ms ref s left, refText? ms = some ref → f ms ref = .ok (.str s, left) →
      Unfolds o shelf here (.map ms) (.str s))
    (h : Trail o shelf start visits here v) (hr : resolveValue f v = .ok (w, left)) :
    Accounted o shelf start (remaining w) left := by
  induction v using Value.inductionOn generalizing w left with
  | scalar | set => cases hr; exact .nil
  | pair a b =>
    cases hr
    rw [met.pairs visits here a b h]
    exact .nil
  | list items ih =>
    rw [resolveValue_list] at hr
    obtain ⟨⟨ws, left'⟩, hi, hr⟩ := map_eq_ok_iff.1 hr
    cases hr
    exact accounted_of_resolveItems (fun v hv w left => ih v hv (h.part (.item hv))) hi
  | map ms ih =>
    cases text : refText? ms with
    | some ref =>
      rw [resolveValue_ref text] at hr
      exact refs ms ref w left h text hr
    | none =>
      rw [resolveValue_map text] at hr
      obtain ⟨⟨ms', left'⟩, hi, hr⟩ := map_eq_ok_iff.1 hr
      cases hr
      have plain : refText? ms' = none :=
        refText?_eq_none_of_rel text (met.maps visits here ms h)
          (fun v s => fun ⟨left, hv⟩ => unfolds_of_resolveValue_text
            (fun ms ref left text => texts ms ref s left text) hv) (rel_of_resolveMembers hi)
      rw [remaining_map plain]
      exact accounted_of_resolveMembers
        (fun m hm w left => ih m hm (h.part (.member text hm))) hi

/-! ## What becomes of a reference -/

/-- A reference is left as it is, or the node that it leads to is resolved. -/
theorem enter_eq_ok_cases {n : Nat} (h : enter o shelf n here seen ms ref = .ok (w, left)) :
    (w = .map ms ∧ ∃ e, left = [e] ∧ e.ref = ref) ∨
      ∃ n' there pointer v k, Designates o shelf here ref there pointer v ∧
        resolveValue (enter o shelf n' there (k :: seen)) v = .ok (w, left) ∧ n' < n := by
  cases hf : follow o shelf here seen ref with
  | error stop =>
    cases stop with
    | malformed m =>
      rw [enter.eq_def] at h
      simp only [hf] at h
      cases h
    | ref e =>
      rw [enter.eq_def] at h
      simp only [hf] at h
      split at h
      · cases h
        exact .inl ⟨rfl, e, rfl, ref_of_follow_eq_error hf⟩
      · cases h
  | ok a =>
    obtain ⟨v, there, k⟩ := a
    cases n with
    | zero =>
      rw [enter.eq_def] at h
      simp only [hf] at h
      split at h
      · cases h
        exact .inl ⟨rfl, _, rfl, rfl⟩
      · cases h
    | succ n =>
      rw [enter_succ_of_follow_eq_ok hf] at h
      obtain ⟨pointer, target, -, -⟩ := follow_eq_ok_iff.1 hf
      exact .inr ⟨n, there, pointer, v, k, target, h, Nat.lt_succ_self n⟩

/-- If a reference is resolved to a text, it unfolds to it: by induction on how many more may be
followed from it. -/
theorem unfolds_of_enter_text {n : Nat} {s : String} (text : refText? ms = some ref)
    (h : enter o shelf n here seen ms ref = .ok (.str s, left)) :
    Unfolds o shelf here (.map ms) (.str s) := by
  induction n using Nat.strongRecOn generalizing here seen ms ref left with
  | ind n ih =>
    obtain ⟨h, -⟩ | ⟨n', there, pointer, v, k, target, h, hn⟩ := enter_eq_ok_cases h
    · cases h
    · exact .ref text target
        (unfolds_of_resolveValue_text (fun ms ref left text => ih n' hn text) h)

theorem Trail.accounted_of_enter (met : AllMet o shelf start) {n : Nat}
    (way : Trail o shelf start visits here (.map ms)) (text : refText? ms = some ref)
    (h : enter o shelf n here seen ms ref = .ok (w, left)) :
    Accounted o shelf start (remaining w) left := by
  induction n using Nat.strongRecOn generalizing visits here seen ms ref w left with
  | ind n ih =>
    obtain ⟨rfl, e, rfl, he⟩ | ⟨n', there, pointer, v, k, target, h, hn⟩ := enter_eq_ok_cases h
    · exact way.accounted text he
    · exact (way.follow text target).accounted_of_resolveValue met
        (fun ms ref w left way text => ih n' hn way text)
        (fun ms ref s left text => unfolds_of_enter_text text) h

/-- Nothing remains of a document but the references that were left in it. -/
theorem accounted_of_resolve {base : Option String} {root : Value}
    (met : AllMet o shelf (startOf o base root))
    (h : resolve o shelf base root = .ok (w, left)) :
    Accounted o shelf (startOf o base root) (remaining w) left :=
  Trail.root.accounted_of_resolveValue met (fun _ _ _ _ way text => way.accounted_of_enter met text)
    (fun _ _ _ _ text => unfolds_of_enter_text text) h

/-- A tolerant resolution that meets all references accounts for those that remain: their texts, in
order and as often as they occur, are the unresolved ones, and each is, unchanged, a reference of
the document that it belongs to. -/
theorem unresolved_eq_remaining (external : Bool) (home : String) (shelf : Shelf)
    (base : Option String) (root : Value) (w : Value) (left : List RefError)
    (met : AllMet (tolerantly external home) shelf (startOf (tolerantly external home) base root))
    (h : resolve (tolerantly external home) shelf base root = .ok (w, left)) :
    (remaining w).filterMap refText? = left.map RefError.ref ∧
      ∀ ms ∈ remaining w, (refText? ms).isSome ∧ ∃ here,
        MetIn (tolerantly external home) shelf (startOf (tolerantly external home) base root)
          here ms := by
  obtain ⟨texts, each⟩ := accounted_of_resolve met h
  exact ⟨texts, fun ms hm => ⟨refText?_isSome_of_mem_remaining hm, each ms hm⟩⟩

/-- A reference to itself, and one that leads nowhere. -/
def brokenRefs : Value :=
  .map [(.str "a", .map [(.str "$ref", .str "#/a")]), (.str "b", .map [(.str "$ref", .str "#/c")])]

theorem refsAreTexts_brokenRefs : RefsAreTexts brokenRefs := by
  refine ⟨fun ms h => ?_, fun a b h => ?_⟩
  · simp only [brokenRefs, Value.str, within_map_iff, within_scalar_iff, Value.map.injEq,
      List.mem_cons, List.not_mem_nil, or_false, exists_eq_or_imp, exists_eq_left, reduceCtorEq] at h
    obtain rfl | rfl | rfl := h <;> decide
  · simp [brokenRefs, Value.str, within_map_iff, within_scalar_iff] at h

theorem unresolved_eq_remaining_brokenRefs :
    AllMet (tolerantly false "/w") .empty (startOf (tolerantly false "/w") none brokenRefs) ∧
      resolve (tolerantly false "/w") .empty none brokenRefs =
        .ok (brokenRefs, [.circular "#/a", .missingKey "#/c" "c"]) ∧
      (remaining brokenRefs).filterMap refText? = ["#/a", "#/c"] := by
  have met : AllMet (tolerantly false "/w") .empty
      (startOf (tolerantly false "/w") none brokenRefs) :=
    .of_texts refsAreTexts_brokenRefs fun _ _ h => nomatch h
  have answer : resolve (tolerantly false "/w") .empty none brokenRefs =
      .ok (brokenRefs, [.circular "#/a", .missingKey "#/c" "c"]) := rfl
  exact ⟨met, answer, (unresolved_eq_remaining false "/w" .empty none brokenRefs _ _ met answer).1⟩

/-- A mapping whose member `$ref` is a reference, to the text of another reference. -/
def composedRef : Value :=
  .map [(.str "x", .map [(.str "$ref", .map [(.str "$ref", .str "#/a")])]),
    (.str "a", .str "#/b"), (.str "b", .int 1)]

def composedAnswer : Value :=
  .map [(.str "x", .map [(.str "$ref", .str "#/b")]), (.str "a", .str "#/b"), (.str "b", .int 1)]

/-- A reference that a mapping has become remains, and is not among the unresolved ones. -/
theorem remaining_of_composedRef :
    resolve (tolerantly false "/w") .empty none composedRef = .ok (composedAnswer, []) ∧
      (remaining composedAnswer).filterMap refText? = ["#/b"] :=
  ⟨rfl, rfl⟩

/-! ## What strict resolution answers -/

/-- A node unfolds to one value only. -/
theorem Unfolds.unique (h : Unfolds o shelf here v w) (h' : Unfolds o shelf here v w') : w = w' := by
  induction h generalizing w' with
  | scalar | pair | set => cases h'; rfl
  | list length each ih =>
    obtain ⟨items', rfl, same⟩ := unfolds_list_iff.1 h'
    obtain ⟨length', each'⟩ := List.forall₂_iff_get.1 same
    exact congrArg Value.list (List.ext_get (length.symm.trans length') fun i hi hi' =>
      ih i (length ▸ hi) hi (each' i (length ▸ hi) hi'))
  | map plain length keys each ih =>
    obtain ⟨ms', rfl, same⟩ := (unfolds_map_iff plain).1 h'
    obtain ⟨length', each'⟩ := List.forall₂_iff_get.1 same
    refine congrArg Value.map (List.ext_get (length.symm.trans length') fun i hi hi' => ?_)
    have member := each' i (length ▸ hi) hi'
    exact Prod.ext ((keys i (length ▸ hi) hi).symm.trans member.1)
      (ih i (length ▸ hi) hi member.2)
  | ref text target _ ih =>
    obtain ⟨there, pointer, u, target', hu⟩ := h'.designates text
    obtain ⟨rfl, rfl, rfl⟩ := target.unique target'
    exact ih hu

/-- What a node on a way from the root unfolds to is in what the root unfolds to. -/
theorem Trail.exists_within (h : Trail o shelf start visits here v)
    (hu : Unfolds o shelf start start.root w) :
    ∃ w', Unfolds o shelf here v w' ∧ Within w' w := by
  induction h with
  | root => exact ⟨w, hu, .self⟩
  | part _ hp ih =>
    obtain ⟨w', hw, hi⟩ := ih
    cases hp with
    | item hv =>
      obtain ⟨items', rfl, each⟩ := unfolds_list_iff.1 hw
      obtain ⟨u', hu', hu⟩ := exists_of_forall₂_of_mem_left each hv
      exact ⟨u', hu, .trans (.item hu' .self) hi⟩
    | member plain hm =>
      obtain ⟨ms', rfl, each⟩ := (unfolds_map_iff plain).1 hw
      obtain ⟨m', hm', -, hu⟩ := exists_of_forall₂_of_mem_left each hm
      exact ⟨m'.2, hu, .trans (.member hm' .self) hi⟩
  | follow _ text target ih =>
    obtain ⟨w', hw, hi⟩ := ih
    obtain ⟨there, pointer, u, target', hu⟩ := hw.designates text
    obtain ⟨rfl, rfl, rfl⟩ := target.unique target'
    exact ⟨w', hu, hi⟩

/-- A mapping that is no reference keeps its keys, and so the member that would make it one. -/
theorem Unfolds.get? {v : Value} (h : Unfolds o shelf here (.map ms) w) (plain : refText? ms = none)
    {name : String} (hv : ms.get? name = some v) :
    ∃ (ms' : Members) (v' : Value), w = .map ms' ∧ ms'.map Prod.fst = ms.map Prod.fst ∧
      ms'.get? name = some v' ∧ Unfolds o shelf here v v' := by
  obtain ⟨ms', rfl, each⟩ := (unfolds_map_iff plain).1 h
  have rel : Members.Rel (fun _ => Unfolds o shelf here) ms ms' := each
  have member := rel.get? name
  rw [hv] at member
  cases hv' : Members.get? name ms' with
  | none => rw [hv'] at member; cases member
  | some v' =>
    rw [hv'] at member
    cases member with
    | some hu =>
      refine ⟨ms', v', rfl, ?_, hv', hu⟩
      clear rel hv hv' h plain
      induction each with
      | nil => rfl
      | cons hm _ ih => exact congrArg₂ List.cons hm.1.symm ih

/-- Where no mapping becomes a reference, a node unfolds to a value without references to follow. -/
theorem Trail.refTexts_eq_nil
    (stay : ∀ visits here ms, Trail o shelf start visits here (.map ms) →
      ¬ BecomesReference o shelf here ms)
    (h : Trail o shelf start visits here v) (hu : Unfolds o shelf here v w) : refTexts w = [] := by
  induction hu generalizing visits with
  | scalar | pair | set => rfl
  | @list _ items items' length _ ih =>
    refine refTexts_list_eq_nil fun v hv => ?_
    obtain ⟨⟨i, hi'⟩, rfl⟩ := List.mem_iff_get.1 hv
    exact ih i (length ▸ hi') hi' (h.part (.item (List.get_mem items _)))
  | @map _ ms ms' plain length keys each ih =>
    refine refTexts_map_eq_nil ?_ fun m hm => ?_
    · exact refText?_eq_none_of_rel plain (stay visits _ ms h) (fun _ _ hu => hu)
        (List.forall₂_iff_get.2 ⟨length, fun i hi hi' => ⟨keys i hi hi', each i hi hi'⟩⟩)
    · obtain ⟨⟨i, hi'⟩, rfl⟩ := List.mem_iff_get.1 hm
      exact ih i (length ▸ hi') hi' (h.part (.member plain (List.get_mem ms _)))
  | ref text target _ ih => exact ih (h.follow text target)

/-- A strict answer leaves out nothing; it has no reference in it exactly if all of them were met,
and it is resolved to itself, whatever the options, if no mapping becomes a reference.  A mapping
with a member named `$ref` that is no text keeps it, as what the member unfolds to. -/
theorem strictly_complete_iff (external : Bool) (home : String) (shelf : Shelf)
    (base : Option String) (root : Value) (w : Value) (left : List RefError)
    (h : resolve (strictly external home) shelf base root = .ok (w, left)) :
    let o := strictly external home
    let start := startOf o base root
    left = [] ∧
      ((∀ ms, Within (.map ms) w → refText? ms = none) ↔ AllMet o shelf start) ∧
      ((∀ visits here ms, Trail o shelf start visits here (.map ms) →
          ¬ BecomesReference o shelf here ms) →
        ∀ o' shelf' base', resolve o' shelf' base' w = .ok (w, [])) ∧
      ∀ visits here (ms : Members) v, Trail o shelf start visits here (.map ms) →
        ms.get? "$ref" = some v → v.str? = none →
          ∃ (ms' : Members) (v' : Value), Within (.map ms') w ∧
            Unfolds o shelf here (.map ms) (.map ms') ∧
            ms'.map Prod.fst = ms.map Prod.fst ∧
            ms'.get? "$ref" = some v' ∧ Unfolds o shelf here v v' := by
  intro o start
  obtain ⟨rfl, hu, -⟩ := (resolve_eq_ok_iff rfl).1 h
  refine ⟨rfl, ⟨fun none => ⟨fun visits here ms way => ?_, fun visits here a b way => ?_⟩,
    fun met => ?_⟩, fun stay o' shelf' base' => ?_, fun visits here ms v way hv text => ?_⟩
  · rintro ⟨plain, v, s, hv, hs⟩
    obtain ⟨w', hw, inside⟩ := way.exists_within hu
    obtain ⟨ms', v', rfl, -, hv', hu'⟩ := hw.get? plain hv
    cases hu'.unique hs
    have ref : refText? ms' = some s := Option.bind_eq_some_iff.2 ⟨_, hv', rfl⟩
    rw [none ms' inside] at ref
    cases ref
  · obtain ⟨w', hw, inside⟩ := way.exists_within hu
    cases hw
    exact remaining_eq_nil_iff.2 fun ms hm => none ms (hm.trans inside)
  · obtain ⟨texts, -⟩ := accounted_of_resolve met h
    refine remaining_eq_nil_iff.1 (List.eq_nil_iff_forall_not_mem.2 fun ms hm => ?_)
    have ref := refText?_isSome_of_mem_remaining hm
    rw [List.filterMap_eq_nil_iff.1 texts ms hm] at ref
    cases ref
  · exact resolve_of_refTexts_eq_nil (Trail.root.refTexts_eq_nil stay hu)
  · have plain : refText? ms = none := Option.bind_eq_none_iff.2 fun v' hv' => by
      rw [hv] at hv'
      exact Option.some.inj hv' ▸ text
    obtain ⟨w', hw, inside⟩ := way.exists_within hu
    obtain ⟨ms', v', rfl, keys, hv', hu'⟩ := hw.get? plain hv
    exact ⟨ms', v', inside, hw, keys, hv', hu'⟩

/-- A document with a member `$ref` that is a mapping, as in the schema of a reference. -/
def refProperty : Value :=
  .map [(.str "s", .map [(.str "$ref", .map [(.str "$ref", .str "#/t")])]),
    (.str "t", .map [(.str "type", .str "string")])]

def refPropertyAnswer : Value :=
  .map [(.str "s", .map [(.str "$ref", .map [(.str "type", .str "string")])]),
    (.str "t", .map [(.str "type", .str "string")])]

theorem strictly_complete_refProperty :
    resolve (strictly true "/w") .empty none refProperty = .ok (refPropertyAnswer, []) ∧
      AllMet (strictly true "/w") .empty (startOf (strictly true "/w") none refProperty) ∧
      ∀ o' shelf' base', resolve o' shelf' base' refPropertyAnswer = .ok (refPropertyAnswer, []) := by
  have answer : resolve (strictly true "/w") .empty none refProperty =
      .ok (refPropertyAnswer, []) := rfl
  obtain ⟨-, complete, fixed, -⟩ :=
    strictly_complete_iff true "/w" .empty none refProperty _ _ answer
  have met := complete.1 (remaining_eq_nil_iff.1 rfl)
  exact ⟨answer, met, fixed met.maps⟩

/-- A strict answer with a reference in it, which another resolution replaces. -/
theorem strict_answer_of_composedRef :
    resolve (strictly false "/w") .empty none composedRef = .ok (composedAnswer, []) ∧
      Within (.map [(.str "$ref", .str "#/b")]) composedAnswer ∧
      refText? [(.str "$ref", .str "#/b")] = some "#/b" ∧
      resolve (strictly false "/w") .empty none composedAnswer ≠ .ok (composedAnswer, []) := by
  refine ⟨rfl, .member List.mem_cons_self .self, rfl, fun same => ?_⟩
  have again : resolve (strictly false "/w") .empty none composedAnswer =
      .ok (.map [(.str "x", .int 1), (.str "a", .str "#/b"), (.str "b", .int 1)], []) := rfl
  rw [again] at same
  cases same

end ApiAccord.Reference
