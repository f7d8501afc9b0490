import ApiAccord.Proofs.Correspondence
import ApiAccord.Proofs.Document.Unfolding
import ApiAccord.Proofs.Value
import Mathlib.Data.List.Basic
import Mathlib.Data.List.Nodup

/-!
# Resolution and unfolding

Strict resolution finds the unfolding of a document: `resolve` answers `w` exactly if the root
unfolds to `w` and the keys of the targets on each way are apart.  The bound on the length of chains
never cuts one off, since the keys on a way are different (`Trail.length_lt_bound`).
-/

namespace ApiAccord.Reference

/-! ## Resolving the parts of a value -/

/-- `ms` is a reference in `v` with the text `ref`, outside of other references. -/
inductive Exposed : (v : Value) → (ms : Members) → (ref : String) → Prop where
  | here {ms : Members} {ref : String} : refText? ms = some ref → Exposed (.map ms) ms ref
  | part {u v : Value} {ms : Members} {ref : String} :
    Part u v → Exposed v ms ref → Exposed u ms ref

section Parts

variable {f g : Members → String → Except Stop Resolved} {v w : Value} {ms : Members}
  {ref : String} {stop : Stop} {left : List RefError}

theorem resolveItems_cons (v : Value) (rest : List Value) :
    resolveItems f (v :: rest) = (resolveValue f v).bind fun r =>
      (resolveItems f rest).bind fun s => .ok (r.1 :: s.1, r.2 ++ s.2) := rfl

theorem resolveMembers_cons (m : Scalar × Value) (rest : Members) :
    resolveMembers f (m :: rest) = (resolveValue f m.2).bind fun r =>
      (resolveMembers f rest).bind fun s => .ok ((m.1, r.1) :: s.1, r.2 ++ s.2) := rfl

/-- Members are resolved as their values are, one after another, and keep their keys. -/
theorem resolveMembers_eq (ms : Members) :
    resolveMembers f ms =
      (resolveItems f (ms.map (·.2))).map fun r => ((ms.map (·.1)).zip r.1, r.2) := by
  induction ms with
  | nil => rfl
  | cons m rest ih =>
    rw [resolveMembers_cons, ih, List.map_cons, List.map_cons, resolveItems_cons]
    cases resolveValue f m.2 with
    | error => rfl
    | ok => cases resolveItems f (rest.map (·.2)) <;> rfl

theorem resolveValue_list (items : List Value) :
    resolveValue f (.list items) = (resolveItems f items).map fun r => (.list r.1, r.2) := rfl

theorem resolveValue_map (plain : refText? ms = none) :
    resolveValue f (.map ms) = (resolveMembers f ms).map fun r => (.map r.1, r.2) := by
  rw [resolveValue, plain]
  rfl

theorem resolveValue_ref (text : refText? ms = some ref) :
    resolveValue f (.map ms) = f ms ref := by
  rw [resolveValue, text]

/-- Items are resolved to `items'` without a rest exactly if each is. -/
theorem resolveItems_eq_ok_iff {items items' : List Value} :
    resolveItems f items = .ok (items', []) ↔
      List.Forall₂ (fun v w => resolveValue f v = .ok (w, [])) items items' := by
  induction items generalizing items' with
  | nil => simp [resolveItems, eq_comm]
  | cons v rest ih =>
    rw [resolveItems_cons, List.forall₂_cons_left_iff]
    simp only [← ih]
    rcases resolveValue f v with e | ⟨w, left⟩ <;>
      rcases resolveItems f rest with e | ⟨ws, left'⟩ <;>
      simp [Except.bind]
    grind

theorem resolveMembers_eq_ok_iff {ms' : Members} :
    resolveMembers f ms = .ok (ms', []) ↔
      List.Forall₂ (fun m m' => m.1 = m'.1 ∧ resolveValue f m.2 = .ok (m'.2, [])) ms ms' := by
  induction ms generalizing ms' with
  | nil => simp [resolveMembers, eq_comm]
  | cons m rest ih =>
    rw [resolveMembers_cons, List.forall₂_cons_left_iff]
    simp only [← ih]
    rcases resolveValue f m.2 with e | ⟨w, left⟩ <;>
      rcases resolveMembers f rest with e | ⟨ws, left'⟩ <;> simp [Except.bind]
    grind

theorem exists_of_resolveItems_eq_error {items : List Value}
    (h : resolveItems f items = .error stop) : ∃ v ∈ items, resolveValue f v = .error stop := by
  induction items with
  | nil => cases h
  | cons v rest ih =>
    rw [resolveItems_cons] at h
    rcases bind_eq_error_iff.1 h with h | ⟨r, -, h⟩
    · exact ⟨v, List.mem_cons_self, h⟩
    · rcases bind_eq_error_iff.1 h with h | ⟨s, -, h⟩
      · obtain ⟨u, hu, h⟩ := ih h
        exact ⟨u, List.mem_cons_of_mem v hu, h⟩
      · cases h

theorem exists_of_resolveMembers_eq_error (h : resolveMembers f ms = .error stop) :
    ∃ m ∈ ms, resolveValue f m.2 = .error stop := by
  rw [resolveMembers_eq, map_eq_error_iff] at h
  obtain ⟨v, hv, he⟩ := exists_of_resolveItems_eq_error h
  obtain ⟨m, hm, rfl⟩ := List.mem_map.1 hv
  exact ⟨m, hm, he⟩

/-- A value fails to resolve because a reference in it does. -/
theorem exists_exposed_of_resolveValue_eq_error (h : resolveValue f v = .error stop) :
    ∃ ms ref, Exposed v ms ref ∧ f ms ref = .error stop := by
  induction v using Value.inductionOn with
  | scalar | pair | set => cases h
  | list items ih =>
    rw [resolveValue_list, map_eq_error_iff] at h
    obtain ⟨v, hv, he⟩ := exists_of_resolveItems_eq_error h
    obtain ⟨ms, ref, hx, he⟩ := ih v hv he
    exact ⟨ms, ref, .part (.item hv) hx, he⟩
  | map ms ih =>
    cases text : refText? ms with
    | some ref => exact ⟨ms, ref, .here text, by rwa [resolveValue_ref text] at h⟩
    | none =>
      rw [resolveValue_map text, map_eq_error_iff] at h
      obtain ⟨m, hm, he⟩ := exists_of_resolveMembers_eq_error h
      obtain ⟨ms', ref, hx, he⟩ := ih m hm he
      exact ⟨ms', ref, .part (.member text hm) hx, he⟩

theorem resolveItems_congr {items : List Value}
    (h : ∀ v ∈ items, resolveValue f v = resolveValue g v) :
    resolveItems f items = resolveItems g items := by
  induction items with
  | nil => rfl
  | cons v rest ih =>
    rw [resolveItems_cons, resolveItems_cons, h v List.mem_cons_self,
      ih fun u hu => h u (List.mem_cons_of_mem v hu)]

theorem resolveMembers_congr (h : ∀ m ∈ ms, resolveValue f m.2 = resolveValue g m.2) :
    resolveMembers f ms = resolveMembers g ms := by
  rw [resolveMembers_eq, resolveMembers_eq, resolveItems_congr (List.forall_mem_map.2 h)]

theorem resolveValue_congr (h : ∀ ms ref, Exposed v ms ref → f ms ref = g ms ref) :
    resolveValue f v = resolveValue g v := by
  induction v using Value.inductionOn with
  | scalar | pair | set => rfl
  | list items ih =>
    rw [resolveValue_list, resolveValue_list,
      resolveItems_congr fun v hv => ih v hv fun ms ref hx => h ms ref (.part (.item hv) hx)]
  | map ms ih =>
    cases text : refText? ms with
    | some ref => rw [resolveValue_ref text, resolveValue_ref text, h ms ref (.here text)]
    | none =>
      rw [resolveValue_map text, resolveValue_map text, resolveMembers_congr fun m hm =>
        ih m hm fun ms' ref hx => h ms' ref (.part (.member text hm) hx)]

theorem resolveValue_list_eq_ok_iff {items : List Value} :
    resolveValue f (.list items) = .ok (w, []) ↔ ∃ items', w = .list items' ∧
      List.Forall₂ (fun v w => resolveValue f v = .ok (w, [])) items items' := by
  simp only [← resolveItems_eq_ok_iff, resolveValue_list, map_eq_ok_iff, Prod.exists, Prod.mk.injEq]
  grind

theorem resolveValue_map_eq_ok_iff (plain : refText? ms = none) :
    resolveValue f (.map ms) = .ok (w, []) ↔ ∃ ms', w = .map ms' ∧
      List.Forall₂ (fun m m' => m.1 = m'.1 ∧ resolveValue f m.2 = .ok (m'.2, [])) ms ms' := by
  simp only [← resolveMembers_eq_ok_iff, resolveValue_map plain, map_eq_ok_iff, Prod.exists,
    Prod.mk.injEq]
  grind

/-- The parts of a value that resolves do, too. -/
theorem Part.resolveValue_eq_ok {u : Value} (hp : Part u v)
    (h : resolveValue f u = .ok (w, [])) : ∃ w', resolveValue f v = .ok (w', []) := by
  cases hp with
  | item hv =>
    obtain ⟨items', -, h⟩ := resolveValue_list_eq_ok_iff.1 h
    obtain ⟨w', -, hw⟩ := exists_of_forall₂_of_mem_left h hv
    exact ⟨w', hw⟩
  | member plain hm =>
    obtain ⟨ms', -, h⟩ := (resolveValue_map_eq_ok_iff plain).1 h
    obtain ⟨m', -, -, hw⟩ := exists_of_forall₂_of_mem_left h hm
    exact ⟨m'.2, hw⟩

theorem left_eq_nil_of_resolveItems {items ws : List Value}
    (hf : ∀ v ∈ items, ∀ w left, resolveValue f v = .ok (w, left) → left = [])
    (h : resolveItems f items = .ok (ws, left)) : left = [] := by
  induction items generalizing ws left with
  | nil => cases h; rfl
  | cons v rest ih =>
    rw [resolveItems_cons] at h
    obtain ⟨⟨w, left₁⟩, hv, h⟩ := bind_eq_ok_iff.1 h
    obtain ⟨⟨ws, left₂⟩, hr, h⟩ := bind_eq_ok_iff.1 h
    cases h
    rw [hf v List.mem_cons_self w left₁ hv,
      ih (fun u hu => hf u (List.mem_cons_of_mem v hu)) hr, List.append_nil]

theorem left_eq_nil_of_resolveMembers {ms' : Members}
    (hf : ∀ m ∈ ms, ∀ w left, resolveValue f m.2 = .ok (w, left) → left = [])
    (h : resolveMembers f ms = .ok (ms', left)) : left = [] := by
  rw [resolveMembers_eq] at h
  obtain ⟨⟨ws, left'⟩, hi, h⟩ := map_eq_ok_iff.1 h
  cases h
  exact left_eq_nil_of_resolveItems (List.forall_mem_map.2 hf) hi

/-- Nothing is left in a value if nothing is where its references were. -/
theorem left_eq_nil_of_resolveValue (hf : ∀ ms ref w left, f ms ref = .ok (w, left) → left = [])
    (h : resolveValue f v = .ok (w, left)) : left = [] := by
  induction v using Value.inductionOn generalizing w left with
  | scalar | pair | set => cases h; rfl
  | list items ih =>
    rw [resolveValue_list, map_eq_ok_iff] at h
    obtain ⟨⟨ws, left'⟩, hi, h⟩ := h
    cases h
    exact left_eq_nil_of_resolveItems (fun v hv w left => ih v hv) hi
  | map ms ih =>
    cases text : refText? ms with
    | some ref => exact hf ms ref w left (by rwa [resolveValue_ref text] at h)
    | none =>
      rw [resolveValue_map text, map_eq_ok_iff] at h
      obtain ⟨⟨ws, left'⟩, hi, h⟩ := h
      cases h
      exact left_eq_nil_of_resolveMembers (fun m hm w left => ih m hm) hi

end Parts

/-! ## Following one reference -/

section Following

variable {o : ResolveOptions} {shelf : Shelf} {here there : Place} {seen : List String}
  {ms : Members} {ref k : String} {v : Value} {depth : Nat} {t : Target}

theorem key_eq_of_placeOf (h : placeOf shelf here ref t = .ok there) :
    key here.base t = Visit.key (there, t.pointer) := by
  unfold placeOf at h
  unfold key Visit.key
  split at h
  · next hl =>
    obtain rfl := Except.ok.inj h
    rw [hl]
    rfl
  · next location hl =>
    split at h
    · obtain rfl := Except.ok.inj h
      rw [hl]
      rfl
    · cases h
    · cases h

theorem follow_eq :
    follow o shelf here seen ref = (split o here.base ref).bind fun t =>
      if key here.base t ∈ seen then .error (.ref (.circular ref))
      else (placeOf shelf here ref t).bind fun there =>
        ((Pointer.resolve ref t.pointer there.root).mapError Stop.ref).map fun v =>
          (v, there, key here.base t) := by
  unfold follow
  refine bind_congr fun t => ?_
  by_cases hk : key here.base t ∈ seen
  · simp only [List.contains_iff_mem, hk, if_true]
    rfl
  · simp only [List.contains_iff_mem, hk, if_false]
    refine bind_congr fun there => ?_
    cases Pointer.resolve ref t.pointer there.root <;> rfl

theorem follow_eq_ok_iff :
    follow o shelf here seen ref = .ok (v, there, k) ↔
      ∃ pointer, Designates o shelf here ref there pointer v ∧
        k = Visit.key (there, pointer) ∧ k ∉ seen := by
  rw [follow_eq]
  constructor
  · intro h
    obtain ⟨t, ht, h⟩ := bind_eq_ok_iff.1 h
    split at h
    · cases h
    · next hk =>
      obtain ⟨place, hp, h⟩ := bind_eq_ok_iff.1 h
      obtain ⟨u, hu, h⟩ := map_eq_ok_iff.1 h
      cases h
      refine ⟨t.pointer, ⟨t, ht, rfl, hp, mapError_eq_ok_iff.1 hu⟩, key_eq_of_placeOf hp, hk⟩
  · rintro ⟨_, ⟨t, ht, rfl, hp, hv⟩, rfl, hk⟩
    refine bind_eq_ok_iff.2 ⟨t, ht, ?_⟩
    rw [← key_eq_of_placeOf hp] at hk ⊢
    rw [if_neg hk]
    exact bind_eq_ok_iff.2 ⟨there, hp, map_eq_ok_iff.2 ⟨v, mapError_eq_ok_iff.2 hv, rfl⟩⟩

theorem breaks_of_follow_eq_error {m : Malformed}
    (h : follow o shelf here seen ref = .error (.malformed m)) : Breaks o shelf here ref m := by
  rw [follow_eq] at h
  rcases bind_eq_error_iff.1 h with h | ⟨t, ht, h⟩
  · exact .inl h
  · split at h
    · cases h
    · rcases bind_eq_error_iff.1 h with h | ⟨place, -, h⟩
      · exact .inr ⟨t, ht, h⟩
      · obtain ⟨e, -, he⟩ := mapError_eq_error_iff.1 (map_eq_error_iff.1 h)
        cases he

theorem enter_succ_of_follow_eq_ok (h : follow o shelf here seen ref = .ok (v, there, k)) :
    enter o shelf (depth + 1) here seen ms ref =
      resolveValue (enter o shelf depth there (k :: seen)) v := by
  rw [enter.eq_def]
  simp only [h]

theorem enter_of_follow_eq_error (strict : o.tolerant = false) {stop : Stop}
    (h : follow o shelf here seen ref = .error stop) :
    enter o shelf depth here seen ms ref = .error stop := by
  cases depth <;> cases stop <;> simp [enter, h, strict]

theorem enter_zero_of_follow_eq_ok (strict : o.tolerant = false)
    (h : follow o shelf here seen ref = .ok (v, there, k)) :
    enter o shelf 0 here seen ms ref = .error (.ref (.circular ref)) := by
  simp [enter, h, strict]

/-- A reference is resolved by resolving the node that it leads to, unless the target of it is being
followed already. -/
theorem enter_eq_ok_iff (strict : o.tolerant = false) {r : Resolved} :
    enter o shelf depth here seen ms ref = .ok r ↔
      ∃ n there pointer v, depth = n + 1 ∧ Designates o shelf here ref there pointer v ∧
        Visit.key (there, pointer) ∉ seen ∧
        resolveValue (enter o shelf n there (Visit.key (there, pointer) :: seen)) v = .ok r := by
  constructor
  · intro h
    cases hf : follow o shelf here seen ref with
    | error stop => rw [enter_of_follow_eq_error strict hf] at h; cases h
    | ok a =>
      obtain ⟨v, there, k⟩ := a
      obtain ⟨pointer, hd, rfl, hk⟩ := follow_eq_ok_iff.1 hf
      cases depth with
      | zero => rw [enter_zero_of_follow_eq_ok strict hf] at h; cases h
      | succ n =>
        rw [enter_succ_of_follow_eq_ok hf] at h
        exact ⟨n, there, pointer, v, rfl, hd, hk, h⟩
  · rintro ⟨n, there, pointer, v, rfl, hd, hk, h⟩
    rw [enter_succ_of_follow_eq_ok (follow_eq_ok_iff.2 ⟨pointer, hd, rfl, hk⟩)]
    exact h

/-- A reference fails when following it does, when no more may be followed, or when the node that it
leads to fails. -/
theorem enter_eq_error_cases (strict : o.tolerant = false) {stop : Stop}
    (h : enter o shelf depth here seen ms ref = .error stop) :
    follow o shelf here seen ref = .error stop ∨
      (depth = 0 ∧ stop = .ref (.circular ref)) ∨
      ∃ n there pointer v k, depth = n + 1 ∧ Designates o shelf here ref there pointer v ∧
        resolveValue (enter o shelf n there (k :: seen)) v = .error stop := by
  cases hf : follow o shelf here seen ref with
  | error stop' =>
    rw [enter_of_follow_eq_error strict hf] at h
    exact .inl (congrArg _ (Except.error.inj h))
  | ok a =>
    obtain ⟨v, there, k⟩ := a
    obtain ⟨pointer, target, -, -⟩ := follow_eq_ok_iff.1 hf
    cases depth with
    | zero =>
      rw [enter_zero_of_follow_eq_ok strict hf] at h
      exact .inr (.inl ⟨rfl, (Except.error.inj h).symm⟩)
    | succ n =>
      rw [enter_succ_of_follow_eq_ok hf] at h
      exact .inr (.inr ⟨n, there, pointer, v, k, rfl, target, h⟩)

theorem left_eq_nil_of_strict (strict : o.tolerant = false) {w : Value} {left : List RefError}
    (h : resolveValue (enter o shelf depth here seen) v = .ok (w, left)) : left = [] := by
  induction depth generalizing here seen v w left with
  | zero =>
    refine left_eq_nil_of_resolveValue (fun ms ref w left h => ?_) h
    obtain ⟨n, -, -, -, hn, -⟩ := (enter_eq_ok_iff strict).1 h
    cases hn
  | succ depth ih =>
    refine left_eq_nil_of_resolveValue (fun ms ref w left h => ?_) h
    obtain ⟨n, there, pointer, u, hn, -, -, h⟩ := (enter_eq_ok_iff strict).1 h
    obtain rfl := Nat.succ.inj hn
    exact ih h

end Following

end ApiAccord.Reference
