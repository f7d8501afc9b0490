import ApiAccord.Proofs.Json.Numbers
import ApiAccord.Text.Integer

/-!
# Integers as they are usually written

`Text.integer?` reads more than decimal digits, but these it reads as they are meant, unless they
are too many (`integer?_ofList`).  Of these, the texts without a zero before other digits are those
of the natural numbers (`isDecimal_iff`).
-/

namespace ApiAccord.Text

open Json (Digits natOfDigits)

variable {c : Char} {ds : List Char} {s : String} {n : ℕ}

/-! ## Digits -/

theorem bounds_of_isDigit (h : c.isDigit = true) : 48 ≤ c.toNat ∧ c.toNat ≤ 57 :=
  Char.isDigit_iff_toNat.1 h

theorem digitValue?_of_isDigit (h : c.isDigit = true) : digitValue? c = some (c.toNat - 48) := by
  obtain ⟨low, high⟩ := bounds_of_isDigit h
  have first : digitZeros.find? (fun z => z ≤ c.toNat && c.toNat ≤ z + 9) = some 48 := by
    rw [digitZeros, List.find?_toArray]
    exact List.find?_cons_of_pos (by simp [low, high])
  rw [digitValue?, first]
  rfl

theorem digitInBase?_ten (h : c.isDigit = true) : digitInBase? 10 c = some (c.toNat - 48) := by
  have small : c.toNat - 48 < 10 := by
    have := bounds_of_isDigit h
    omega
  rw [digitInBase?, digitValue?_of_isDigit h]
  exact if_pos small

theorem digitChar_of_isDigit (h : c.isDigit = true) : Nat.digitChar (c.toNat - 48) = c := by
  obtain ⟨low, high⟩ := bounds_of_isDigit h
  refine Char.toNat_inj.1 ?_
  rw [Nat.toNat_digitChar_of_lt_ten (by omega)]
  omega

theorem isBlank_of_isDigit (h : c.isDigit = true) : isBlank c = false := by
  have := bounds_of_isDigit h
  simp only [isBlank, Bool.or_eq_false_iff, Bool.and_eq_false_iff, decide_eq_false_iff_not,
    beq_eq_false_iff_ne]
  omega

theorem ne_of_isDigit {d : Char} (h : c.isDigit = true) (hd : d.isDigit = false) : c ≠ d := by
  rintro rfl
  exact absurd h (by rw [hd]; decide)

/-! ## Reading digits -/

theorem digitsAfter?_of_digits (h : Digits ds) :
    digitsAfter? 10 n ds = some (ds.foldl (fun n c => n * 10 + (c.toNat - 48)) n) := by
  induction ds generalizing n with
  | nil => rfl
  | cons c rest ih =>
    have digit := h c List.mem_cons_self
    have sep : c ≠ '_' := ne_of_isDigit digit rfl
    rw [digitsAfter?.eq_4 _ _ _ _ (fun hc _ => sep hc) (fun _ _ hc _ => sep hc),
      digitInBase?_ten digit]
    exact ih fun d hd => h d (List.mem_cons_of_mem c hd)

theorem digits?_of_digits (h : Digits ds) (ne : ds ≠ []) :
    digits? 10 ds = some (natOfDigits ds) := by
  obtain ⟨c, rest, rfl⟩ := List.exists_cons_of_ne_nil ne
  rw [digits?, digitInBase?_ten (h c List.mem_cons_self)]
  refine (digitsAfter?_of_digits fun d hd => h d (List.mem_cons_of_mem c hd)).trans ?_
  rw [natOfDigits, List.foldl_cons, Nat.zero_mul, Nat.zero_add]
  rfl

theorem Chars.trimBy_eq_self {p : Char → Bool} {cs : List Char} (h : ∀ c ∈ cs, p c = false) :
    trimBy p cs = cs := by
  have keep {l : List Char} (hl : ∀ c ∈ l, p c = false) : l.dropWhile p = l := by
    cases l with
    | nil => rfl
    | cons c rest => exact List.dropWhile_cons_of_neg (by simp [hl c List.mem_cons_self])
  rw [trimBy, dropEndWhile, keep h, keep fun c hc => h c (List.mem_reverse.1 hc),
    List.reverse_reverse]

theorem splitSign_of_digits (h : Digits ds) : splitSign ds = (false, ds) := by
  unfold splitSign
  split
  · exact absurd (h _ List.mem_cons_self) (by decide)
  · exact absurd (h _ List.mem_cons_self) (by decide)
  · rfl

/-- Decimal digits are read as they are meant, unless they are too many. -/
theorem integer?_ofList (h : Digits ds) (ne : ds ≠ []) :
    integer? (String.ofList ds) =
      if ds.length ≤ maxDigits then some (natOfDigits ds : ℤ) else none := by
  have count : ds.filter (· != '_') = ds :=
    List.filter_eq_self.2 fun c hc => bne_iff_ne.2 (ne_of_isDigit (h c hc) rfl)
  rw [integer?, String.toList_ofList,
    Chars.trimBy_eq_self fun c hc => isBlank_of_isDigit (h c hc), splitSign_of_digits h]
  simp only [digits?_of_digits h ne, Option.bind_eq_bind, Option.bind_some, count,
    Bool.false_eq_true, if_false, ← not_lt, ite_not]
  rfl

/-! ## Natural numbers -/

/-- A natural number as it is usually written: `0`, or ASCII digits of which the first is no
zero. -/
def IsDecimal (s : String) : Prop :=
  s = "0" ∨ s ≠ "" ∧ Digits s.toList ∧ s.toList.head? ≠ some '0'

theorem toDigits_natOfDigits (h : Digits ds) (ne : ds ≠ []) (first : ds.head? ≠ some '0') :
    Nat.toDigits 10 (natOfDigits ds) = ds := by
  induction ds using List.reverseRecOn with
  | nil => exact absurd rfl ne
  | append_singleton ds c ih =>
    have digit := h c (by simp)
    have small : c.toNat - 48 < 10 := by
      have := bounds_of_isDigit digit
      omega
    have last : Nat.toDigits 10 (c.toNat - 48) = [c] := by
      rw [Nat.toDigits_of_lt_base small, digitChar_of_isDigit digit]
    have value : natOfDigits (ds ++ [c]) = 10 * natOfDigits ds + (c.toNat - 48) := by
      simp [natOfDigits, Nat.mul_comm]
    by_cases hd : ds = []
    · subst hd
      rw [value, Json.natOfDigits_nil, Nat.mul_zero, Nat.zero_add, last, List.nil_append]
    · have front : ds.head? ≠ some '0' := by rwa [List.head?_append_of_ne_nil _ hd] at first
      have before := ih (fun d hm => h d (List.mem_append_left _ hm)) hd front
      have positive : 0 < natOfDigits ds := by
        refine Nat.pos_of_ne_zero fun hz => front ?_
        rw [← before, hz, Nat.toDigits_zero]
        rfl
      rw [value, ← Nat.toDigits_append_toDigits (by decide) positive small, before, last]

theorem toList_toString_nat (n : ℕ) : (toString n).toList = Nat.toDigits 10 n := Nat.toList_repr

theorem isDecimal_iff : IsDecimal s ↔ ∃ n : ℕ, s = toString n := by
  constructor
  · rintro (rfl | ⟨ne, digits, first⟩)
    · exact ⟨0, rfl⟩
    · refine ⟨natOfDigits s.toList, ?_⟩
      rw [← String.toList_inj, toList_toString_nat, toDigits_natOfDigits digits _ first]
      exact mt String.toList_eq_nil_iff.1 ne
  · rintro ⟨n, rfl⟩
    rcases Nat.eq_zero_or_pos n with rfl | positive
    · exact .inl rfl
    · refine .inr ⟨Nat.repr_ne_empty, ?_, ?_⟩
      · rw [toList_toString_nat]
        exact Json.digits_toDigits n
      · rw [toList_toString_nat]
        exact Json.head_toDigits positive

/-- A natural number is read as it is meant, unless it has too many digits. -/
theorem integer?_toString (n : ℕ) :
    integer? (toString n) = if n < 10 ^ maxDigits then some (n : ℤ) else none := by
  rw [← String.ofList_toList (s := toString n), toList_toString_nat,
    integer?_ofList (Json.digits_toDigits n) Nat.toDigits_ne_nil, Json.natOfDigits_toDigits]
  simp only [Nat.length_toDigits_le_iff (b := 10) (by decide) (k := maxDigits) (by decide)]

end ApiAccord.Text
