import ApiAccord.Proofs.Json.Reading
import ApiAccord.Proofs.Value
import ApiAccord.Settings.Layers

/-!
# Merging mappings

`Settings.mergeMembers` puts a mapping over another.  Under a name the result has what the upper
mapping has there, merged with what the lower one has, and what the lower one has where the upper
one has nothing (`get?_mergeMembers`).  This needs a mapping that has no key twice; what is read
from JSON has none (`Json.keyed_of_read`).
-/

namespace ApiAccord

/-! ## Values without repeated keys -/

/-- No two members have the same key. -/
def Members.Apart (ms : Members) : Prop := ms.Pairwise fun m n => m.1.same n.1 = false

/-- No mapping in the value has a key twice. -/
inductive Value.Keyed : Value → Prop
  | scalar (s : Scalar) : Keyed (.scalar s)
  | list (items : List Value) (each : ∀ v ∈ items, Keyed v) : Keyed (.list items)
  | pair (a b : Value) (first : Keyed a) (second : Keyed b) : Keyed (.pair a b)
  | map (ms : Members) (apart : ms.Apart) (each : ∀ m ∈ ms, Keyed m.2) : Keyed (.map ms)
  | set (items : List Scalar) : Keyed (.set items)

theorem Value.Keyed.apart {ms : Members} (h : (Value.map ms).Keyed) : ms.Apart := by
  cases h with
  | map _ apart _ => exact apart

theorem Value.Keyed.get? {ms : Members} {name : String} {v : Value} (h : (Value.map ms).Keyed)
    (hg : ms.get? name = some v) : v.Keyed := by
  cases h with
  | map _ _ each => exact each _ (Members.mem_of_get? hg)

theorem Members.mem_of_lookup {ms : Members} {k : Scalar} {v : Value} (h : ms.lookup k = some v) :
    ∃ m ∈ ms, m.2 = v := by
  induction ms with
  | nil => cases h
  | cons m rest ih =>
    rw [Members.lookup] at h
    split at h
    · exact ⟨m, List.mem_cons_self, Option.some.inj h⟩
    · obtain ⟨n, hn, hv⟩ := ih h
      exact ⟨n, List.mem_cons_of_mem _ hn, hv⟩

theorem Value.Keyed.lookup {ms : Members} {k : Scalar} {v : Value} (h : (Value.map ms).Keyed)
    (hv : ms.lookup k = some v) : v.Keyed := by
  cases h with
  | map _ _ each =>
    obtain ⟨m, hm, rfl⟩ := Members.mem_of_lookup hv
    exact each m hm

namespace Members

variable {ms : Members} {k : Scalar} {name : String} {v : Value}

theorem mem_insert {m : Scalar × Value} (h : m ∈ insert k v ms) :
    (m.2 = v ∧ (m.1 = k ∨ ∃ n ∈ ms, m.1 = n.1 ∧ m.1.same k = true)) ∨ m ∈ ms := by
  induction ms with
  | nil => exact .inl ⟨congrArg Prod.snd (List.mem_singleton.1 h),
      .inl (congrArg Prod.fst (List.mem_singleton.1 h))⟩
  | cons n rest ih =>
    obtain ⟨k', w⟩ := n
    rw [insert] at h
    split at h
    · next hs =>
      rcases List.mem_cons.1 h with rfl | h
      · exact .inl ⟨rfl, .inr ⟨_, List.mem_cons_self, rfl, hs⟩⟩
      · exact .inr (List.mem_cons_of_mem _ h)
    · rcases List.mem_cons.1 h with rfl | h
      · exact .inr List.mem_cons_self
      · rcases ih h with ⟨hv, hk | ⟨n, hn, hk⟩⟩ | h
        · exact .inl ⟨hv, .inl hk⟩
        · exact .inl ⟨hv, .inr ⟨n, List.mem_cons_of_mem _ hn, hk⟩⟩
        · exact .inr (List.mem_cons_of_mem _ h)

theorem mem_insert_str {m : Scalar × Value} (h : m ∈ insert (.str name) v ms) :
    m = (.str name, v) ∨ m ∈ ms := by
  rcases mem_insert h with ⟨hv, hk | ⟨-, -, -, hs⟩⟩ | h
  · exact .inl (Prod.ext hk hv)
  · exact .inl (Prod.ext (Scalar.same_name_iff.1 hs) hv)
  · exact .inr h

theorem Apart.insert (h : ms.Apart) (k : Scalar) (v : Value) : (Members.insert k v ms).Apart := by
  induction h with
  | nil => exact List.pairwise_singleton _ _
  | @cons m rest hm hrest ih =>
    obtain ⟨k', w⟩ := m
    rw [Members.insert]
    split
    · exact .cons hm hrest
    · next hs =>
      refine .cons (fun n hn => ?_) ih
      rcases mem_insert hn with ⟨-, hk | ⟨n', hn', hk, -⟩⟩ | hn
      · exact hk ▸ Bool.not_eq_true _ ▸ hs
      · exact hk ▸ hm n' hn'
      · exact hm n hn

theorem keyed_insert (h : (Value.map ms).Keyed) (k : Scalar) (hv : v.Keyed) :
    (Value.map (insert k v ms)).Keyed := by
  cases h with
  | map _ apart each =>
    refine .map _ (apart.insert k v) fun m hm => ?_
    rcases mem_insert hm with ⟨rfl, -⟩ | hm
    · exact hv
    · exact each m hm

theorem keyed_ofEntries {entries : List (Scalar × Value)} (h : ∀ e ∈ entries, e.2.Keyed) :
    (Value.map (ofEntries entries)).Keyed := by
  have step : ∀ ms : Members, (Value.map ms).Keyed →
      (Value.map (entries.foldl (fun ms e => insert e.1 e.2 ms) ms)).Keyed := by
    induction entries with
    | nil => exact fun ms hms => hms
    | cons e rest ih =>
      exact fun ms hms => ih (fun e' he => h e' (List.mem_cons_of_mem _ he)) _
        (keyed_insert hms e.1 (h e List.mem_cons_self))
  exact step [] (.map [] .nil fun m hm => (by cases hm))

end Members

/-! ## What is read from JSON -/

namespace Json

theorem keyed_of_read {text : String} {v : Value} (h : read text = .ok v) : v.Keyed :=
  read_induction (fun _ s _ _ => .scalar s) (fun s => .scalar (.str s)) Value.Keyed.list
    (fun _ each => Members.keyed_ofEntries fun e he => (each e he).2) h

end Json

/-! ## Merged mappings -/

namespace Settings

variable {base upper : Members} {name : String} {v : Value}

theorem mergeValue_of_not_isMap (old : Option Value) (h : v.isMap = false) :
    mergeValue old v = v := by
  cases v with
  | map => cases h
  | _ => rfl

theorem mergeValue_none (v : Value) : mergeValue none v = v := by
  cases v <;> rfl

/-- Under a name there is what the upper mapping has there, merged with what the lower one has. -/
theorem get?_mergeMembers (apart : upper.Apart) (base : Members) (name : String) :
    (mergeMembers base upper).get? name =
      ((upper.get? name).map (mergeValue (base.get? name))).or (base.get? name) := by
  induction apart generalizing base with
  | nil => rfl
  | @cons m rest hm _ ih =>
    obtain ⟨k, w⟩ := m
    rw [mergeMembers, ih]
    by_cases hk : k = .str name
    · obtain rfl := hk
      have once : Members.get? name rest = none := by
        refine Option.eq_none_iff_forall_not_mem.2 fun u hu => ?_
        have apart := hm _ (Members.mem_of_get? hu)
        rw [Scalar.same_str_iff.2 rfl] at apart
        cases apart
      rw [once, Members.get?_insert_self, Members.lookup_str, Members.get?,
        if_pos (beq_self_eq_true name)]
      rfl
    · rw [Members.get?_insert_of_ne hk, Members.get?_cons_of_ne hk]

/-- What holds of the members of both mappings holds of the merged one, if the upper one has no
mappings among its values. -/
theorem forall_mem_mergeMembers {P : Scalar × Value → Prop} (hb : ∀ m ∈ base, P m)
    (ho : ∀ m ∈ upper, (∃ s, m.1 = .str s) ∧ m.2.isMap = false ∧ P m) :
    ∀ m ∈ mergeMembers base upper, P m := by
  induction upper generalizing base with
  | nil => exact hb
  | cons n rest ih =>
    obtain ⟨k, w⟩ := n
    obtain ⟨⟨s, rfl⟩, flat, hw⟩ := ho (k, w) List.mem_cons_self
    rw [mergeMembers, mergeValue_of_not_isMap _ flat]
    refine ih (fun m hm => ?_) fun m hm => ho m (List.mem_cons_of_mem _ hm)
    rcases Members.mem_insert_str hm with rfl | hm
    · exact hw
    · exact hb m hm

end Settings

end ApiAccord
