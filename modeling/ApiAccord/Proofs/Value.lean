import ApiAccord.Proofs.Correspondence
import ApiAccord.Value.Basic

/-!
# Induction over values

A value holds other values as items and as members.  `Value.inductionOn` is induction over all of
these at once.  `Members.Rel` compares mappings member by member, and `Value.sameTexts` tests
values that are made of texts for equality.
-/

namespace ApiAccord

/-- Induction over a value and the values in it. -/
@[elab_as_elim]
theorem Value.inductionOn {motive : Value → Prop} (v : Value)
    (scalar : ∀ s, motive (.scalar s))
    (list : ∀ items, (∀ v ∈ items, motive v) → motive (.list items))
    (pair : ∀ a b, motive a → motive b → motive (.pair a b))
    (map : ∀ ms : Members, (∀ m ∈ ms, motive m.2) → motive (.map ms))
    (set : ∀ items, motive (.set items)) : motive v := by
  refine Value.rec (motive_1 := motive) (motive_2 := fun items => ∀ v ∈ items, motive v)
    (motive_3 := fun ms => ∀ m ∈ ms, motive m.2) (motive_4 := fun m => motive m.2)
    scalar list pair map set ?_ ?_ ?_ ?_ ?_ v
  · exact fun _ h => absurd h List.not_mem_nil
  · exact fun v rest hv hrest w hw => (List.mem_cons.1 hw).elim (· ▸ hv) (hrest w)
  · exact fun _ h => absurd h List.not_mem_nil
  · exact fun m rest hm hrest n hn => (List.mem_cons.1 hn).elim (· ▸ hm) (hrest n)
  · exact fun _ _ h => h

theorem Value.isNull_iff {v : Value} : v.isNull = true ↔ v = .null := by
  constructor
  · intro h
    unfold Value.isNull at h
    split at h
    · rfl
    · cases h
  · rintro rfl
    rfl

namespace Scalar

variable {name : String} {k : Scalar}

theorem same_str_iff : Scalar.same (.str name) k = true ↔ k = .str name := by
  cases k <;> simp only [Scalar.same, Scalar.wholeAmount?, beq_iff_eq, Scalar.str.injEq,
    reduceCtorEq, Bool.false_eq_true]
  exact eq_comm

theorem same_name_iff : k.same (.str name) = true ↔ k = .str name := by
  cases k <;> simp [Scalar.same, Scalar.wholeAmount?]

end Scalar

namespace Members

theorem mem_of_get? {ms : Members} {name : String} {v : Value} (h : ms.get? name = some v) :
    (.str name, v) ∈ ms := by
  fun_induction get? name ms with
  | case1 => cases h
  | case2 s w rest hs =>
    obtain rfl := Option.some.inj h
    rw [beq_iff_eq] at hs
    exact hs ▸ List.mem_cons_self
  | case3 s w rest _ ih => exact List.mem_cons_of_mem _ (ih h)
  | case4 m rest _ ih => exact List.mem_cons_of_mem _ (ih h)

variable {ms : Members} {name : String} {v : Value}

theorem get?_cons_of_ne {m : Scalar × Value} (h : m.1 ≠ .str name) (ms : Members) :
    get? name (m :: ms) = ms.get? name := by
  obtain ⟨k, v⟩ := m
  cases k with
  | str s => exact if_neg fun hs => h (congrArg Scalar.str (beq_iff_eq.1 hs))
  | _ => rfl

/-- What has a name in a mapping is found under it. -/
theorem exists_get?_of_mem (h : (.str name, v) ∈ ms) : ∃ w, ms.get? name = some w := by
  induction ms with
  | nil => cases h
  | cons m rest ih =>
    by_cases hk : m.1 = .str name
    · obtain ⟨_, w⟩ := m
      obtain rfl := hk
      exact ⟨w, if_pos (beq_self_eq_true name)⟩
    · rw [get?_cons_of_ne hk]
      exact ih (List.mem_of_ne_of_mem (fun hm => hk (by rw [← hm])) h)

/-- In a mapping with different keys, a member is what its name leads to. -/
theorem get?_eq_of_mem (distinct : ms.Pairwise fun m n => m.1.same n.1 = false)
    (hm : (.str name, v) ∈ ms) : ms.get? name = some v := by
  induction distinct with
  | nil => cases hm
  | @cons m rest hrest _ ih =>
    rcases List.mem_cons.1 hm with rfl | hm
    · exact if_pos (beq_self_eq_true name)
    · rw [get?_cons_of_ne, ih hm]
      intro hk
      have apart := hrest _ hm
      rw [hk, Scalar.same_str_iff.2 rfl] at apart
      cases apart

theorem lookup_str (name : String) (ms : Members) : ms.lookup (.str name) = ms.get? name := by
  induction ms with
  | nil => rfl
  | cons m rest ih =>
    obtain ⟨k, w⟩ := m
    by_cases hk : k = .str name
    · obtain rfl := hk
      rw [lookup, if_pos (Scalar.same_name_iff.2 rfl), get?, if_pos (beq_self_eq_true name)]
    · rw [lookup, if_neg fun hs => hk (Scalar.same_name_iff.1 hs), get?_cons_of_ne hk, ih]

theorem get?_insert_self (name : String) (v : Value) (ms : Members) :
    (insert (.str name) v ms).get? name = some v := by
  induction ms with
  | nil => exact if_pos (beq_self_eq_true name)
  | cons m rest ih =>
    obtain ⟨k, w⟩ := m
    by_cases hk : k = .str name
    · obtain rfl := hk
      rw [insert, if_pos (Scalar.same_name_iff.2 rfl)]
      exact if_pos (beq_self_eq_true name)
    · rw [insert, if_neg fun hs => hk (Scalar.same_name_iff.1 hs), get?_cons_of_ne hk, ih]

theorem get?_insert_of_ne {k : Scalar} (h : k ≠ .str name) (v : Value) (ms : Members) :
    (insert k v ms).get? name = ms.get? name := by
  induction ms with
  | nil => exact get?_cons_of_ne h []
  | cons m rest ih =>
    obtain ⟨k', w⟩ := m
    rw [insert]
    split
    · next hs =>
      have hk' : k' ≠ .str name := by
        rintro rfl
        exact h (Scalar.same_str_iff.1 hs)
      rw [get?_cons_of_ne hk', get?_cons_of_ne hk']
    · by_cases hk' : k' = .str name
      · obtain rfl := hk'
        rw [get?, get?, if_pos (beq_self_eq_true name), if_pos (beq_self_eq_true name)]
      · rw [get?_cons_of_ne hk', get?_cons_of_ne hk', ih]

theorem get?_insert (other : String) (v : Value) (ms : Members) :
    (insert (.str other) v ms).get? name = if other = name then some v else ms.get? name := by
  split
  · next h => exact h ▸ get?_insert_self other v ms
  · next h => exact get?_insert_of_ne (fun hk => h (Scalar.str.inj hk)) v ms

/-! ## Mappings compared member by member -/

/-- Mappings with the same keys, in order, and values that are related. -/
def Rel (R : Scalar → Value → Value → Prop) (ms ms' : Members) : Prop :=
  List.Forall₂ (fun m m' => m.1 = m'.1 ∧ R m.1 m.2 m'.2) ms ms'

namespace Rel

variable {R S : Scalar → Value → Value → Prop} {ms ms' : Members} {name : String}

protected theorem refl (h : ∀ k v, R k v v) (ms : Members) : Rel R ms ms :=
  List.forall₂_same.2 fun m _ => ⟨rfl, h m.1 m.2⟩

theorem get? (h : Rel R ms ms') (name : String) :
    Option.Rel (R (.str name)) (ms.get? name) (ms'.get? name) := by
  induction h with
  | nil => exact .none
  | @cons m m' rest rest' hm _ ih =>
    obtain ⟨k, v⟩ := m
    obtain ⟨k', v'⟩ := m'
    obtain rfl : k = k' := hm.1
    cases k with
    | str s =>
      rw [Members.get?, Members.get?]
      split
      · next hs => exact .some (beq_iff_eq.1 hs ▸ hm.2)
      · exact ih
    | _ => exact ih

theorem isNone_lookup (h : Rel R ms ms') (k : Scalar) :
    (ms.lookup k).isNone = (ms'.lookup k).isNone := by
  induction h with
  | nil => rfl
  | @cons m m' rest rest' hm _ ih =>
    obtain ⟨k, v⟩ := m
    obtain ⟨k', v'⟩ := m'
    obtain rfl : k = k' := hm.1
    rw [Members.lookup, Members.lookup]
    split
    · rfl
    · exact ih

/-- The members of mappings whose keys pass a test. -/
theorem filter (h : Rel R ms ms') {p q : Scalar × Value → Bool}
    (hp : ∀ k v w, R k v w → p (k, v) = q (k, w))
    (hs : ∀ k v w, R k v w → p (k, v) = true → S k v w) :
    Rel S (ms.filter p) (ms'.filter q) := by
  induction h with
  | nil => exact .nil
  | @cons m m' rest rest' hm _ ih =>
    obtain ⟨k, v⟩ := m
    obtain ⟨k', w⟩ := m'
    obtain rfl : k = k' := hm.1
    rw [List.filter_cons, List.filter_cons, hp k v w hm.2]
    split
    · next hq => exact .cons ⟨rfl, hs k v w hm.2 (hp k v w hm.2 ▸ hq)⟩ ih
    · exact ih

end Rel

end Members

/-! ## Values made of texts -/

mutual

/-- The values are the same, and made of texts, lists and mappings only. -/
def Value.sameTexts : Value → Value → Bool
  | .scalar (.str s), .scalar (.str t) => s == t
  | .list vs, .list ws => sameTextsOfItems vs ws
  | .map ms, .map ns => sameTextsOfMembers ms ns
  | _, _ => false

def Value.sameTextsOfItems : List Value → List Value → Bool
  | [], [] => true
  | v :: vs, w :: ws => sameTexts v w && sameTextsOfItems vs ws
  | _, _ => false

def Value.sameTextsOfMembers : List (Scalar × Value) → List (Scalar × Value) → Bool
  | [], [] => true
  | (.str s, v) :: ms, (.str t, w) :: ns => s == t && (sameTexts v w && sameTextsOfMembers ms ns)
  | _, _ => false

end

namespace Value

theorem eq_of_sameTextsOfItems {vs ws : List Value}
    (each : ∀ v ∈ vs, ∀ w, v.sameTexts w = true → v = w) (h : sameTextsOfItems vs ws = true) :
    vs = ws := by
  induction vs generalizing ws with
  | nil =>
    cases ws with
    | nil => rfl
    | cons => cases h
  | cons v vs ih =>
    cases ws with
    | nil => cases h
    | cons w ws =>
      obtain ⟨hv, hr⟩ := Bool.and_eq_true_iff.1 h
      rw [each v List.mem_cons_self w hv, ih (fun u hu => each u (List.mem_cons_of_mem v hu)) hr]

theorem eq_of_sameTextsOfMembers {ms ns : Members}
    (each : ∀ m ∈ ms, ∀ w, m.2.sameTexts w = true → m.2 = w)
    (h : sameTextsOfMembers ms ns = true) : ms = ns := by
  induction ms generalizing ns with
  | nil =>
    cases ns with
    | nil => rfl
    | cons => cases h
  | cons m ms ih =>
    obtain ⟨k, v⟩ := m
    cases ns with
    | nil => cases k <;> cases h
    | cons n ns =>
      obtain ⟨k', w⟩ := n
      cases k with
      | str s =>
        cases k' with
        | str t =>
          obtain ⟨hk, h⟩ := Bool.and_eq_true_iff.1 h
          obtain ⟨hv, hr⟩ := Bool.and_eq_true_iff.1 h
          have value : v = w := each (.str s, v) List.mem_cons_self w hv
          rw [beq_iff_eq.1 hk, value, ih (fun u hu => each u (List.mem_cons_of_mem _ hu)) hr]
        | _ => cases h
      | _ => cases h

theorem eq_of_sameTexts {v w : Value} (h : v.sameTexts w = true) : v = w := by
  induction v using Value.inductionOn generalizing w with
  | scalar s =>
    rcases w with t | _ | _ | _ | _
    · cases s with
      | str s =>
        cases t with
        | str t => rw [beq_iff_eq.1 (h : (s == t) = true)]
        | _ => cases h
      | _ => cases h
    all_goals cases s <;> cases h
  | list vs ih =>
    cases w with
    | list ws =>
      rw [sameTexts] at h
      rw [eq_of_sameTextsOfItems (fun v hv w hw => ih v hv hw) h]
    | _ => cases h
  | pair | set => cases h
  | map ms ih =>
    cases w with
    | map ns =>
      rw [sameTexts] at h
      rw [eq_of_sameTextsOfMembers (fun m hm w hw => ih m hm hw) h]
    | _ => cases h

end Value

end ApiAccord
