import ApiAccord.Proofs.Files.Tree
import ApiAccord.Proofs.Json.Printing
import ApiAccord.Proofs.Settings.Sections

/-!
# Settings that JSON gives back

What is read from JSON is portable (`Json.portable_of_read`).  Settings that are read from portable
members write a portable record (`Settings.Reads.portable_toValue`): the integers among them come
from numbers or from texts that are not too long, and each kind of issue has one severity.
-/

namespace ApiAccord

namespace Value

/-! ## Parts of portable values -/

section Parts

variable {ms : Members} {v : Value} {name : String} {names : List String}

theorem Portable.get? (h : (Value.map ms).Portable) (hg : ms.get? name = some v) : v.Portable := by
  cases h with
  | map _ _ each => exact each _ (Members.mem_of_get? hg)

theorem Portable.value? (h : (Value.map ms).Portable) (hv : Record.value? ms names = some v) :
    v.Portable := by
  induction names with
  | nil => cases hv
  | cons name others ih =>
    rw [Record.value?] at hv
    cases hg : ms.get? name with
    | none =>
      rw [hg] at hv
      exact ih hv
    | some w =>
      rw [hg] at hv
      exact Option.some.inj hv ▸ h.get? hg

theorem portable_empty : (Value.map []).Portable :=
  .map .nil (fun _ hm => (by cases hm)) fun _ hm => (by cases hm)

theorem Portable.sectionOf (h : (Value.map ms).Portable) (name : String) :
    (Value.map (Settings.sectionOf ms name)).Portable := by
  unfold Settings.sectionOf
  cases hg : ms.get? name with
  | none => exact portable_empty
  | some v =>
    cases v with
    | map inner => exact h.get? hg
    | _ => exact portable_empty

theorem Portable.insert (h : (Value.map ms).Portable) (hv : v.Portable) (name : String) :
    (Value.map (Members.insert (.str name) v ms)).Portable := by
  cases h with
  | map apart named each =>
    refine .map (apart.insert _ v) (fun m hm => ?_) fun m hm => ?_ <;>
      rcases Members.mem_insert_str hm with rfl | hm
    · exact ⟨name, rfl⟩
    · exact named m hm
    · exact hv
    · exact each m hm

theorem portable_ofNamed {members : List (String × Value)} (distinct : (members.map (·.1)).Nodup)
    (each : ∀ m ∈ members, m.2.Portable) : (Value.ofNamed members).Portable := by
  refine .map ?_ (fun m hm => ?_) fun m hm => ?_
  · refine List.pairwise_map.2 ((List.pairwise_map.1 distinct).imp fun hne => ?_)
    exact Bool.eq_false_iff.2 fun hs => hne (Scalar.str.inj (Scalar.same_name_iff.1 hs))
  · obtain ⟨n, -, rfl⟩ := List.mem_map.1 hm
    exact ⟨n.1, rfl⟩
  · obtain ⟨n, hn, rfl⟩ := List.mem_map.1 hm
    exact each n hn

theorem portable_texts (items : List String) : (Value.list (items.map .str)).Portable := by
  refine .list fun v hv => ?_
  obtain ⟨s, -, rfl⟩ := List.mem_map.1 hv
  exact .str s

end Parts

end Value

/-! ## Integers -/

namespace Json

theorem short_of_lt {i : Int} {n : ℕ} (h : i.natAbs < 2 ^ n) (hn : n ≤ maxIntegerDigits) :
    Short i :=
  calc i.natAbs < 2 ^ n := h
    _ ≤ 10 ^ n := Nat.pow_le_pow_left (by decide) n
    _ ≤ 10 ^ maxIntegerDigits := Nat.pow_le_pow_right (by decide) hn

theorem scaled_lt {m e k : ℕ} (hm : m < 2 ^ 53) (he : e ≤ k) : m * 2 ^ e < 2 ^ (53 + k) :=
  calc m * 2 ^ e < 2 ^ 53 * 2 ^ e := Nat.mul_lt_mul_of_pos_right hm (Nat.pow_pos (by decide))
    _ = 2 ^ (53 + e) := (pow_add 2 53 e).symm
    _ ≤ 2 ^ (53 + k) := Nat.pow_le_pow_right (by decide) (by omega)

theorem lt_scaled {m : ℕ} (k : ℕ) (hm : m < 2 ^ 53) : m < 2 ^ (53 + k) :=
  hm.trans_le (Nat.pow_le_pow_right (by decide) (Nat.le_add_right 53 k))

/-- The integers that doubles are lie far below the longest ones that are read. -/
theorem short_of_wholeFloat? {x : Float} {i : Int} (h : Scalar.wholeFloat? x = some i) :
    Short i := by
  unfold Scalar.wholeFloat? at h
  split at h
  · cases h
  · generalize hb : x.abs.toBits.toNat = bits at h
    have bounded : bits < 2 ^ 64 := hb ▸ UInt64.toNat_lt _
    dsimp only at h
    set m : ℕ := if bits / Nat.pow 2 52 == 0 then 0 else bits % Nat.pow 2 52 + Nat.pow 2 52 with hm
    set n : ℕ := if 1075 ≤ bits / Nat.pow 2 52 then m * Nat.pow 2 (bits / Nat.pow 2 52 - 1075)
      else m / Nat.pow 2 (1075 - bits / Nat.pow 2 52) with hn
    have mantissa : m < 2 ^ 53 := by
      have fraction : bits % 2 ^ 52 < 2 ^ 52 := Nat.mod_lt bits (Nat.pow_pos (by decide))
      rw [hm]
      split
      · exact Nat.pow_pos (by decide)
      · exact (by omega : bits % 2 ^ 52 + 2 ^ 52 < 2 ^ 53)
    have exponent : bits / Nat.pow 2 52 - 1075 ≤ 3021 :=
      (by omega : bits / 2 ^ 52 - 1075 ≤ 3021)
    have amount : n < 2 ^ (53 + 3021) := by
      rw [hn]
      split
      · exact scaled_lt mantissa exponent
      · exact (Nat.div_le_self _ _).trans_lt (lt_scaled 3021 mantissa)
    have abs : i.natAbs = n := by
      obtain rfl := Option.some.inj h
      split <;> simp
    exact short_of_lt (abs ▸ amount) (by decide)

theorem digits_of_plainDigits? {cs ds : List Char} (h : Field.plainDigits? cs = some ds) :
    Digits ds := by
  fun_induction Field.plainDigits? cs generalizing ds with
  | case1 => cases h
  | case2 c hc =>
    cases h
    exact List.forall_mem_singleton.2 hc
  | case3 => cases h
  | case4 c rest hc ih =>
    obtain ⟨ds', hd, rfl⟩ := Option.map_eq_some_iff.1 h
    exact List.forall_mem_cons.2 ⟨hc, ih hd⟩
  | case5 => cases h
  | case6 c rest _ _ hc ih =>
    obtain ⟨ds', hd, rfl⟩ := Option.map_eq_some_iff.1 h
    exact List.forall_mem_cons.2 ⟨hc, ih hd⟩
  | case7 => cases h

theorem short_of_wholeOfWord {s : String} {i : Int} (h : Field.wholeOfWord s = .ok i) :
    Short i := by
  unfold Field.wholeOfWord at h
  dsimp only at h
  split at h
  · cases h
  · next ds hd =>
    split at h
    · cases h
    · next long =>
      obtain rfl := Checked.ok.inj h
      exact short_of_length (digits_of_plainDigits? hd) (not_lt.1 long) _

/-- A whole number that a portable value is taken for is short. -/
theorem short_of_whole {v : Value} {i : Int} (h : Field.whole v = .ok i) (hv : v.Portable) :
    Short i := by
  cases hv with
  | int short =>
    obtain rfl := Checked.ok.inj h
    exact short
  | bool b =>
    obtain rfl := Checked.ok.inj h
    exact short_of_lt (n := 1) (by cases b <;> decide) (by decide)
  | float x =>
    unfold Field.whole at h
    dsimp only at h
    split at h
    · cases h
    · split at h
      · next j hj =>
        obtain rfl := Checked.ok.inj h
        exact short_of_wholeFloat? hj
      · cases h
  | str s =>
    have word : Field.wholeOfWord s = .ok i := h
    exact short_of_wholeOfWord word
  | null | list | map => cases h

end Json

/-! ## Settings -/

section Choices

variable {α : Type} {name : α → String} {all : List α} {v : Value} {a : α}

/-- One of several words is the word of what it is taken for. -/
theorem Field.eq_of_choice (h : Field.choice (all.map fun a => (name a, a)) v = .ok a) :
    v = .str (name a) := by
  obtain ⟨s, rfl, hl⟩ := Field.choice_eq_ok_iff.1 h
  obtain ⟨b, -, hb⟩ := List.mem_map.1 (mem_of_lookup hl)
  obtain ⟨rfl, rfl⟩ := Prod.mk.inj hb
  rfl

/-- A mapping from words is made of the words of what it is taken for. -/
theorem Field.eq_of_mappingOf_choice {β : Type} {word : β → String} {others : List β}
    {ms : Members} {entries : List (α × β)}
    (h : Field.mappingOf (Field.choice (all.map fun a => (name a, a)))
      (Field.choice (others.map fun b => (word b, b))) (.map ms) = .ok entries) :
    Value.map ms = .ofNamed (entries.map fun (a, b) => (name a, .str (word b))) := by
  refine congrArg Value.map ?_
  unfold Field.mappingOf at h
  dsimp only at h
  induction ms generalizing entries with
  | nil =>
    obtain rfl := Checked.ok.inj h
    rfl
  | cons m rest ih =>
    obtain ⟨_, after, first, hr, rfl⟩ := seq_eq_ok_iff.1 h
    obtain ⟨_, entry, rfl⟩ := map_check_eq_ok_iff.1 first
    obtain ⟨_, b, pair, value, rfl⟩ := seq_eq_ok_iff.1 entry
    obtain ⟨a, key, rfl⟩ := map_check_eq_ok_iff.1 pair
    have hk := eq_of_choice (at_eq_ok_iff.1 (at_eq_ok_iff.1 key))
    have hv := eq_of_choice (at_eq_ok_iff.1 value)
    have head : m = (.str (name a), .str (word b)) := Prod.ext (Value.scalar.inj hk) hv
    rw [head, ih hr]
    rfl

end Choices

namespace Settings

variable {ms : Members} {s : Settings}

theorem short_of_field {names : List String} {d i : Int} {test : Int → Bool} {bad : Flaw}
    (h : Record.field ms names d (Field.satisfying test bad Field.whole) = .ok i)
    (portable : (Value.map ms).Portable) (hd : d.natAbs < 2 ^ 20) : Json.Short i := by
  rw [Record.field_eq_ok_iff] at h
  cases hv : Record.value? ms names with
  | none =>
    rw [hv] at h
    obtain rfl := Checked.ok.inj h
    exact Json.short_of_lt hd (by decide)
  | some v =>
    rw [hv] at h
    exact Json.short_of_whole (Field.satisfying_eq_ok_iff.1 h).1 (portable.value? hv)

theorem portable_overrides {o : CheckOptions} (h : CheckOptions.Reads ms o)
    (portable : (Value.map ms).Portable) :
    (Value.ofNamed (o.overrides.map fun (k, s) => (k.name, .str s.name))).Portable := by
  have field := Record.field_eq_ok_iff.1 h.overrides
  cases hv : Record.value? ms ["severity_overrides"] with
  | none =>
    rw [hv] at field
    rw [← Checked.ok.inj field]
    exact Value.portable_empty
  | some v =>
    rw [hv] at field
    have read := portable.value? hv
    cases v with
    | map given => exact Field.eq_of_mappingOf_choice field ▸ read
    | _ => cases field

/-- Settings that are read from a portable record write a portable one. -/
theorem Reads.portable_toValue (h : Reads ms s) (portable : (Value.map ms).Portable) :
    s.toValue.Portable := by
  have check : s.check.toValue.Portable := by
    have most := short_of_field h.check.fields.maxSuggestions (portable.sectionOf _) (by decide)
    have overrides := portable_overrides h.check.fields (portable.sectionOf _)
    refine Value.portable_ofNamed (by simp) ?_
    simp only [List.forall_mem_cons]
    exact ⟨.bool _, .bool _, Value.portable_texts _, overrides, .float _, .int most, by simp⟩
  have extraction : s.extraction.toValue.Portable := by
    have most := short_of_field h.extraction.fields.maxInputChars (portable.sectionOf _) (by decide)
    refine Value.portable_ofNamed (by simp) ?_
    simp only [List.forall_mem_cons]
    exact ⟨Value.portable_texts _, .int most, .bool _, by simp⟩
  have loading : s.loading.toValue.Portable := by
    refine Value.portable_ofNamed (by simp) ?_
    simp only [List.forall_mem_cons]
    exact ⟨.bool _, .bool _, .bool _, .bool _, .float _, by simp⟩
  have store : s.store.toValue.Portable := by
    have capacity := short_of_field h.store.fields.capacity (portable.sectionOf _) (by decide)
    have limit := short_of_field h.store.fields.diskLimit (portable.sectionOf _) (by decide)
    refine Value.portable_ofNamed (by simp) ?_
    simp only [List.forall_mem_cons]
    exact ⟨.bool _, .str _, .int capacity, .int limit, by simp⟩
  have output : (Value.ofNamed [("format", .str s.format)]).Portable :=
    Value.portable_ofNamed (by simp) (List.forall_mem_singleton.2 (.str _))
  refine Value.portable_ofNamed (by simp) ?_
  simp only [List.forall_mem_cons]
  exact ⟨check, extraction, loading, store, output, by simp⟩

end Settings

end ApiAccord
